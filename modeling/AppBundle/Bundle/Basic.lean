import AppBundle.Disk
import AppBundle.Generated.Json
import AppBundle.Toolchain.Hint
import AppBundle.Locator

/-!
# Bundles

A bundle is an app ready to run: the finished template, the code, and all that is needed to tell
where the code comes from. An *assembled* bundle also says how it was made, and holds on to the
modules that its code imports if it is not linked into one piece.
-/

namespace AppBundle

open AppBundle.Json

/-- What the user asks of a run. -/
structure AssemblyOptions where
  /-- Whether the code is made small. -/
  minify : Bool
  /-- Whether the cache is used. -/
  caching : Bool
  /-- Whether generated code is kept for inspection. -/
  debug : Bool
  /-- The folder of the cache, in place of the one that the environment names. -/
  cacheFolder : Option String
  deriving Repr, DecidableEq

/-- Why an app is not bundled. -/
inductive AssemblyError where
  /-- A script needs another module, and there is no toolchain. -/
  | noToolchain (file : String) (line : Nat) (specifier : String)
  /-- The toolchain failed, at a line of the app file if that is known. -/
  | linkFailed (message : String) (hint : Option String) (line : Option Nat)
  /-- A file could not be read or written. -/
  | io (message : String)
  deriving Repr, DecidableEq

namespace AssemblyError

/-- The wording of an error. -/
def message : AssemblyError → String
  | .noToolchain file line specifier =>
    file ++ ":" ++ decimal line ++ ": `" ++ specifier
      ++ "` needs the bundler, but no bundling toolchain is available"
  | .linkFailed message _ _ => "Bundling failed: " ++ message
  | .io message => "IO error: " ++ message

/-- What to do about an error. -/
def hint? : AssemblyError → Option String
  | .noToolchain _ _ _ => some installHint
  | .linkFailed _ hint _ => hint
  | .io _ => none

/-- The line of the app file that an error points at. -/
def line? : AssemblyError → Option Nat
  | .noToolchain _ line _ => some line
  | .linkFailed _ _ line => line
  | .io _ => none

end AssemblyError

/-- The file of the code of a bundle when it runs. -/
def runFile : String := "melker_bundle.js"

/-- An app ready to run. -/
structure Bundle where
  /-- The finished template. -/
  template : String
  /-- The code. -/
  code : String
  /-- Where the lines of the entry come from. -/
  lineTable : LineTable
  /-- The source map of the code. -/
  sourceMap : Option SourceMap
  /-- Where the lines of the modules come from. -/
  origins : List ModuleOrigin
  /-- The text of the app file. -/
  content : String
  /-- The path or URL of the app file. -/
  sourceId : String

/-- A locator for the stack traces of a bundle whose code runs in a file of the given name. -/
def Bundle.locatorFor (b : Bundle) (file : String) : Locator where
  sourceId := b.sourceId
  runFile := some file
  content := some b.content
  lineTable := b.lineTable
  origins := b.origins
  sourceMap := b.sourceMap
  decoded := none

/-- A locator for the stack traces of a bundle. -/
def Bundle.locator (b : Bundle) : Locator :=
  b.locatorFor runFile

/-- How a bundle was made. -/
structure Metadata where
  /-- The version of the toolchain, if there is one. -/
  toolchainVersion : Option String
  /-- Whether it comes from the cache. -/
  cached : Bool
  /-- The files of the modules. -/
  modules : List String
  /-- What there is to say about it. -/
  diagnostics : List Diagnostic
  /-- The text of the entry, if it is kept for inspection. -/
  entry : Option String
  /-- The folder of the generated code, if it is kept for inspection. -/
  folder : Option Path

/-- A bundle with what is known about its making. -/
structure Assembled where
  /-- The bundle. -/
  bundle : Bundle
  /-- The folder of the modules that the code imports, if it is not linked. -/
  artifacts : Option Path
  /-- How it was made. -/
  metadata : Metadata

/-- The members of a bundle as JSON. -/
def Bundle.members (b : Bundle) : List (String × Value) := [
  ("template", .string b.template), ("bundledCode", .string b.code),
  ("lineMap", b.lineTable.toJson), ("sourceMap", .optional SourceMap.toJson b.sourceMap),
  ("scriptMeta", .list ModuleOrigin.toJson b.origins),
  ("originalContent", .string b.content), ("sourceId", .string b.sourceId)]

/-- How a bundle was made, as JSON. -/
def Metadata.toJson (m : Metadata) : Value :=
  .object [
    ("toolchainVersion", .optional .string m.toolchainVersion), ("fromCache", .bool m.cached),
    ("modules", .strings m.modules), ("diagnostics", .list Diagnostic.toJson m.diagnostics),
    ("generatedEntry", .optional .string m.entry),
    ("outDir", .optional (fun p => .string (Path.text p)) m.folder)]

/-- An assembled bundle as JSON. -/
def Assembled.toJson (a : Assembled) : Value :=
  .object (a.bundle.members ++ [("metadata", a.metadata.toJson)])

end AppBundle
