import AppBundle.App.Json
import AppBundle.CommandLine.Arguments
import AppBundle.Host.Program
import AppBundle.Run.Execute
import AppBundle.Toolchain.Program

/-!
# Runs of the program

What a run of the program does with its arguments and its input: it tends the cache, makes a bundle
and writes it, or makes a bundle and runs the app until it has been told that it is shown.

An error of the program itself is one line under the name of the program. An app that is not bundled
or does not run ends with the full report of its failure, and what it had on the disk at that moment
stays if it was running already.
-/

namespace AppBundle

variable {σ : Type}

/-- What a run of the program leaves. -/
structure Outcome where
  /-- The exit code. -/
  code : Nat
  /-- What is written. -/
  output : String
  /-- What is written as errors. -/
  errors : String
  /-- What is logged. -/
  logs : List String
  deriving Repr, DecidableEq

namespace Outcome

/-- A run that does its work. -/
def success (output : String) (logs : List String) : Outcome :=
  ⟨0, output, "", logs⟩

/-- A run that ends with an error of the program. -/
def failure (message : String) (logs : List String) : Outcome :=
  ⟨1, "", "[melker-bundler] " ++ message ++ "\n", logs⟩

/-- A run that ends with the report of a failure of the app. -/
def fatal (report : String) (logs : List String) : Outcome :=
  ⟨1, "", report ++ "\n", logs⟩

end Outcome

/-! ## The cache -/

/-- The path of the cache as it is shown. -/
def Arguments.cachePath (a : Arguments) (e : Environment) : String :=
  a.options.cacheFolder.getD e.bundleFolder

/-- The cache. -/
def Arguments.cache (a : Arguments) (w : World) : Cache :=
  ⟨Path.ofText (a.cachePath w.environment), w.process⟩

/-- The lines that tell what is in the cache at a path. -/
def CacheSummary.report (s : CacheSummary) (path : String) : String :=
  let times := match s.oldest, s.newest with
    | some oldest, some newest =>
      "oldest:    " ++ oldest.text ++ "\nnewest:    " ++ newest.text ++ "\n"
    | _, _ => ""
  "cache dir: " ++ path ++ "\nentries:   " ++ decimal s.count ++ "\nsize:      " ++ decimal s.bytes
    ++ " bytes\n" ++ times

/-- The outcome of work on the cache. -/
def cacheOutcome {α : Type} (purpose : String) (report : α → String) :
    Except DiskFault α → Outcome
  | .ok a => .success (report a) []
  | .error f => .failure (purpose ++ ": " ++ f.message) []

/-- What is told after a number of bundles is removed. -/
def removalReport (condition : String) (count : Nat) : String :=
  "removed " ++ decimal count ++ " cache entries" ++ condition ++ "\n"

/-! ## Bundles -/

/-- The app that the input describes. -/
def readApp (input : List UInt8) : Except String App :=
  match Text.decode? input with
  | none => .error ("failed to read stdin: " ++ DiskFault.notText.message)
  | some text =>
    if (trimmed text).isEmpty then .error "stdin payload is empty"
    else (App.decoder.readText text).mapError fun m => "invalid ParseResult JSON: " ++ m.message

/-- A file with a text at the path that a user names. An empty path names no file. -/
def writeNamed (path text : String) : OnDisk Unit := do
  if path.isEmpty then throw .notFound
  Disk.writeText (Path.ofText path) text

/-- Writes a bundle into the file that takes it, or as output. -/
def Assembled.deliver (b : Assembled) (target : Option String) (logs : List String) :
    InWorld Outcome := do
  let text := b.toJson.wide
  match target with
  | none => return .success (text ++ "\n") logs
  | some path =>
    match ← World.onDisk (attempt (writeNamed path text)) with
    | .ok () => return .success "" logs
    | .error f => return .failure ("failed to write '" ++ path ++ "': " ++ f.message) logs

/-- Runs a bundle until the app has been told that it is shown. -/
def Assembled.run (b : Assembled) (h : Host σ) (c : Context) (logs : List String) :
    StateT σ InWorld Outcome := do
  let launch ← b.execute h c
  let logs := logs ++ launch.logs
  match launch.result with
  | .error e => return .fatal e.report logs
  | .ok app =>
    let r ← inHost (app.ready h)
    let logs := logs ++ r.logs
    match r.result with
    | .error e => return .fatal e.report logs
    | .ok _ =>
      let closed ← inHost h.close
      r.app.release
      match closed with
      | .ok () => return .success "" logs
      | .error e => return .failure ("script host did not shut down cleanly: " ++ e.message) logs

/-- Makes a bundle of the app that the input describes, and writes it or runs it. -/
def Arguments.makeBundle (a : Arguments) (t : Toolchain) (h : Host σ) (input : List UInt8) :
    StateT σ InWorld Outcome := do
  match readApp input with
  | .error message => return .failure message []
  | .ok app =>
    let made ← app.assemble a.options t
    match made.result with
    | .error e => return .fatal (e.report app.sourceId app.content) made.logs
    | .ok b =>
      if a.run then b.run h (.ofSource app.sourceId a.forApp) made.logs
      else
        let outcome ← b.deliver a.target made.logs
        b.release
        return outcome

/-! ## The program -/

/-- Does what the arguments ask for. -/
def Arguments.perform (a : Arguments) (t : Toolchain) (h : Host σ) (input : List UInt8) :
    StateT σ InWorld Outcome := do
  let w ← getThe World
  let cache := a.cache w
  match a.task with
  | .summarize =>
    return cacheOutcome "failed to scan the bundle cache"
      (CacheSummary.report · (a.cachePath w.environment)) (← World.onDisk (attempt cache.summary))
  | .empty =>
    return cacheOutcome "failed to clear the bundle cache" (removalReport "")
      (← World.onDisk (attempt cache.removeAll))
  | .dropOlder seconds =>
    return cacheOutcome "failed to clear the bundle cache"
      (removalReport (" older than " ++ decimal seconds ++ "s"))
      (← World.onDisk (attempt (cache.removeOlder w.now seconds)))
  | .bundle => a.makeBundle t h input

/-- Runs the program with a program that bundles and a program that hosts. The output of the app
comes before that of the program. -/
def runProgram (p : Program) (peer : Peer σ) (arguments : List String) (input : List UInt8) :
    StateT σ InWorld Outcome := fun s => do
  match Invocation.read arguments with
  | .error e => return (.failure e.message [], s)
  | .ok .help => return (.success (usage ++ "\n") [], s)
  | .ok (.work a) =>
    let (outcome, d) ← (a.perform p.toolchain (peer.host allPermissions) input).run (.new s)
    return ({ outcome with output := d.output ++ outcome.output }, d.peer)

end AppBundle
