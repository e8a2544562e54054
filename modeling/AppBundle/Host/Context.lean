import AppBundle.Json.Value
import AppBundle.Reference

/-!
# The context of a running app

What an app finds out about itself when it runs.
-/

namespace AppBundle

open AppBundle.Json

/-- The context of a running app. -/
structure Context where
  /-- Its arguments. -/
  arguments : List String
  /-- The URL of the app file. -/
  url : String
  /-- The folder of the app file. -/
  folder : String
  /-- The module whose default export is what the app may use; without one there is a plain
  stand-in. -/
  capabilities : Option String
  deriving Repr, DecidableEq

namespace Context

/-- The context of an app file that is run with arguments. -/
def ofSource (sourceId : String) (arguments : List String) : Context :=
  ⟨arguments, sourceUrlText sourceId, sourceFolder sourceId, none⟩

/-- A context as JSON. -/
def toJson (c : Context) : Value :=
  .object [
    ("argv", .strings c.arguments), ("url", .string c.url), ("dirname", .string c.folder),
    ("capabilities", .optional .string c.capabilities)]

end Context

end AppBundle
