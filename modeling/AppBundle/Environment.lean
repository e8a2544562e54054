/-!
# The environment of a program

Variables of the environment and the places that follow from them.
-/

namespace AppBundle

/-- The environment in which the program runs. -/
structure Environment where
  /-- Its variables. -/
  bindings : List (String × String)
  /-- The folder of the user, as the system knows it. -/
  account : Option String
  /-- The folder for files that do not last. -/
  temporary : String

/-- A path put behind a folder. -/
def joinPath (folder path : String) : String :=
  if folder.isEmpty then path
  else if folder.toList.getLast? = some '/' then folder ++ path
  else folder ++ "/" ++ path

namespace Environment

/-- A variable, unless it is empty. -/
def get? (e : Environment) (name : String) : Option String :=
  match e.bindings.find? (·.1 = name) with
  | some (_, value) => if value.isEmpty then none else some value
  | none => none

/-- The folder of the user. -/
def home? (e : Environment) : Option String :=
  e.get? "HOME" <|> e.account

/-- The folder in which programs keep what they can make again. -/
def cacheRoot (e : Environment) : String :=
  let own := (e.get? "XDG_CACHE_HOME").filter fun path => path.toList.head? = some '/'
  (own <|> e.home?.map (joinPath · ".cache")).getD e.temporary

/-- The folder of the bundle cache. -/
def bundleFolder (e : Environment) : String :=
  (e.get? "MELKER_CACHE_DIR").getD (joinPath (joinPath e.cacheRoot "melker") "bundles")

/-- The program that bundles and runs. -/
def program (e : Environment) : String :=
  (e.get? "MELKER_DENO").getD "deno"

end Environment

end AppBundle
