import AppBundle.Bundle.Assemble
import AppBundle.Run.App

/-!
# Executing bundles

A bundle is executed in a host: its code is written where the host can load it, the host loads it,
and what the app has to do before it starts is done. Code that is not linked stays beside the
modules that it imports; all other code gets a scratch folder of its own.

The folder stays as long as the app runs. An app that does not start leaves none.
-/

namespace AppBundle

variable {σ : Type}

/-- The outcome of executing a bundle. -/
structure Launch where
  /-- The app, or why it does not run. -/
  result : Except RunError RunningApp
  /-- What is logged. -/
  logs : List String

/-- An operation of a host as one on host and world. -/
def inHost {α : Type} (op : StateM σ α) : StateT σ InWorld α := fun s =>
  pure (op.run s)

/-- The file that holds the code of a bundle when it runs. -/
def Assembled.payloadName (a : Assembled) : String :=
  if a.artifacts.isSome then entryFile else runFile

/-- The folder in which a bundle runs. -/
def Assembled.runFolder (a : Assembled) : InWorld (Except DiskFault Path) :=
  match a.artifacts with
  | some folder => pure (.ok folder)
  | none => World.makeScratch

/-- Writes the files of a host into a folder. -/
def Host.writeFiles (h : Host σ) (folder : Path) : OnDisk Unit :=
  h.files.forM fun (file, text) => Disk.writeText (folder ++ [file]) text

/-- The answer of a host to loading a bundle in a folder. -/
def Assembled.loaded (a : Assembled) (folder : Path) :
    Except HostFault (Option Registry) → Launch
  | .ok (some registry) =>
    ⟨.ok ⟨registry, a.bundle.locatorFor a.payloadName, false, folder⟩, []⟩
  | .ok none => ⟨.error (.malformed a.bundle.sourceId), []⟩
  | .error (.script f) =>
    let (failure, _, logs) := (a.bundle.locatorFor a.payloadName).failure f
    ⟨.error (.load failure), logs⟩
  | .error e => ⟨.error (.host e), []⟩

/-- Loads a bundle in a folder. -/
def Assembled.load (a : Assembled) (h : Host σ) (c : Context) (folder : Path) :
    StateT σ InWorld Launch := do
  let payload := folder ++ [a.payloadName]
  match ← World.onDisk (attempt (Disk.writeText payload a.bundle.code)) with
  | .error f => return ⟨.error (.io f.message), []⟩
  | .ok () =>
    match ← World.onDisk (attempt (h.writeFiles folder)) with
    | .error f => return ⟨.error (.host (.io f.message)), []⟩
    | .ok () => return a.loaded folder (← inHost (h.load (← getThe World).disk payload c))

/-- Loads a bundle in a folder and does what has to be done before it starts. -/
def Assembled.launch (a : Assembled) (h : Host σ) (c : Context) (folder : Path) :
    StateT σ InWorld Launch := do
  let l ← a.load h c folder
  match l.result with
  | .error _ => return l
  | .ok app =>
    let r ← inHost (app.start h)
    return ⟨r.result.map fun _ => r.app, l.logs ++ r.logs⟩

/-- Executes a bundle. -/
def Assembled.execute (a : Assembled) (h : Host σ) (c : Context) :
    StateT σ InWorld Launch := do
  match ← a.runFolder with
  | .error f => return ⟨.error (.io f.message), []⟩
  | .ok folder =>
    let l ← a.launch h c folder
    match l.result with
    | .error _ => World.dropScratch folder
    | .ok _ => pure ()
    return l

/-- Lets go of the files of an app. -/
def RunningApp.release (a : RunningApp) : InWorld Unit :=
  World.dropScratch a.folder

end AppBundle
