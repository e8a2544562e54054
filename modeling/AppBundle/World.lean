import AppBundle.Disk
import AppBundle.Environment
import AppBundle.Text.Numeral

/-!
# The world of a run

What a run of the bundler depends on besides its input and what it may change: the disk, the
present, the environment, and the folders it makes for files that do not last. Such *scratch
folders* are numbered, so no two of them have the same name.
-/

namespace AppBundle

/-- The world of a run. -/
structure World where
  /-- The disk. -/
  disk : Disk
  /-- The present, in milliseconds since the start of 1970. -/
  now : Int
  /-- The environment. -/
  environment : Environment
  /-- The number of the process. -/
  process : Nat
  /-- The number of scratch folders made so far. -/
  scratches : Nat

/-- An operation on a world. -/
abbrev InWorld := StateM World

namespace World

/-- An operation on the disk of a world. -/
def onDisk {α : Type} (op : StateM Disk α) : InWorld α := fun w =>
  let (a, d) := op.run w.disk
  (a, { w with disk := d })

/-- The folder in which scratch folders are made. -/
def scratchRoot (w : World) : Path :=
  Path.ofText w.environment.temporary

/-- How the name of a scratch folder begins. -/
def scratchMark : String := "melker-"

/-- The name of a scratch folder. -/
def scratchName (n : Nat) : String :=
  let ds := Text.numeral n
  scratchMark ++ String.ofList (List.replicate (6 - ds.length) '0' ++ ds)

/-- A new scratch folder. -/
def makeScratch : InWorld (Except DiskFault Path) := fun w =>
  let p := w.scratchRoot.child (scratchName w.scratches)
  match (attempt (Disk.makeFolder p)).run w.disk with
  | (.error f, disk) => (.error f, { w with disk })
  | (.ok (), disk) => (.ok p, { w with disk, scratches := w.scratches + 1 })

/-- A scratch folder taken away with all that is in it. -/
def dropScratch (p : Path) : InWorld Unit :=
  modify fun w =>
    match w.disk.place p with
    | .ok q => { w with disk := w.disk.dropTree q }
    | .error _ => w

end World

end AppBundle
