import AppBundle.Bundle.Basic

/-!
# Toolchains

What links generated modules into one piece of code. A toolchain may be absent; then it has no
version.
-/

namespace AppBundle

/-- What a toolchain is asked to do. -/
structure LinkRequest where
  /-- The folder of the modules, which also takes what the toolchain writes. -/
  folder : Path
  /-- Whether the code is made small. -/
  minify : Bool
  deriving Repr, DecidableEq

/-- The entry module of a request. -/
def LinkRequest.entry (r : LinkRequest) : Path :=
  r.folder ++ [entryFile]

/-- What a toolchain makes. -/
structure LinkOutput where
  /-- The code. -/
  code : String
  /-- The text of its source map, if there is one. -/
  sourceMap : Option String
  /-- What the toolchain warned about. -/
  warnings : List String
  deriving Repr, DecidableEq

/-- A toolchain. -/
structure Toolchain where
  /-- Its version; an absent toolchain has none. -/
  version : Option String
  /-- Links the modules of a request. -/
  bundle : LinkRequest → StateM Disk (Except AssemblyError LinkOutput)

end AppBundle
