import AppBundle.CommandLine.Run

/-!
# The program

The command line over the standard streams. The disk is one in memory that begins empty, and no
other program is started, so there is neither a toolchain nor a host: an app is bundled as far as
that goes without linking. The text of the file that takes a bundle is written out in its place.
-/

namespace AppBundle

/-- The variables of the environment that matter. -/
def variableNames : List String :=
  ["MELKER_CACHE_DIR", "MELKER_DENO", "XDG_CACHE_HOME", "HOME", "TMPDIR"]

/-- The environment. -/
def readEnvironment : IO Environment := do
  let mut bindings := []
  for name in variableNames do
    if let some value ← IO.getEnv name then
      bindings := bindings ++ [(name, value)]
  let e : Environment := ⟨bindings, none, "/tmp"⟩
  return { e with temporary := (e.get? "TMPDIR").getD "/tmp" }

/-- The rest of the input. -/
partial def readRest (input : IO.FS.Stream) (read : List UInt8) : IO (List UInt8) := do
  let bytes ← input.read 65536
  if bytes.isEmpty then return read
  readRest input (read ++ bytes.toList)

/-- The file that takes the bundle, if there is to be one. -/
def targetOf (arguments : List String) : Option Path :=
  match Invocation.read arguments with
  | .ok (.work a) => a.target.map Path.ofText
  | _ => none

/-- Whether a run reads its input. -/
def readsInput (arguments : List String) : Bool :=
  match Invocation.read arguments with
  | .ok (.work a) => a.task = .bundle
  | _ => false

/-- A world with nothing on the disk but a folder for scratch folders and one for the target. -/
def emptyWorld (environment : Environment) (target : Option Path) : World :=
  let folders : OnDisk Unit := do
    Disk.makeFolders (Path.ofText environment.temporary)
    Disk.makeFolders ((target.getD []).dropLast)
  { disk := ((attempt folders).run Disk.empty).2, now := 0, environment, process := 0,
    scratches := 0 }

end AppBundle

open AppBundle in
/-- Runs the program. -/
def main (arguments : List String) : IO UInt32 := do
  let environment ← readEnvironment
  let input ← if readsInput arguments then readRest (← IO.getStdin) [] else pure []
  let target := targetOf arguments
  let path := environment.program
  let act := runProgram (Program.missing path) (Peer.missing path) arguments input
  let ((outcome, _), w) := (act.run ()).run (emptyWorld environment target)
  for line in outcome.logs do
    IO.eprintln ("WARN " ++ line)
  IO.print outcome.output
  if let some file := target then
    if let .ok text := ((attempt (Disk.readText file)).run w.disk).1 then
      IO.print text
  IO.eprint outcome.errors
  return outcome.code.toUInt32
