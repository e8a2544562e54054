import AppBundle.App.Basic
import AppBundle.Import.Scan

/-!
# Where an app reaches outside its file

The first place in the scripts of an app that needs another module. An app with such a place cannot
run unless it is bundled.
-/

namespace AppBundle

/-- A place that needs another module. -/
structure Dependency where
  /-- The script. -/
  owner : String
  /-- The line of the app file. -/
  line : Nat
  /-- The module. -/
  specifier : String
  deriving Repr, DecidableEq

/-- The first place in a script that needs another module: the script itself if it is kept outside,
else its first import. -/
def Script.dependency? (s : Script) : Option Dependency :=
  match s.reference with
  | some reference => some ⟨s.id, s.span.start.line, reference⟩
  | none =>
    (Import.scan s.code).head?.map fun i => ⟨s.id, s.span.start.line + i.line, i.specifier⟩

/-- The first place in the scripts of an app that needs another module. -/
def App.dependency? (a : App) : Option Dependency :=
  a.scripts.findSome? Script.dependency?

end AppBundle
