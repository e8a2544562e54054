import AppBundle.Generated.Module

/-!
# The entry module

The entry module of an app, section by section: what every script may use, the scripts that are
loaded with the app, the merging of what they export, the scripts that run at fixed moments, the
handlers, and the registry that publishes them.

Sections are lists of lines, and a line that repeats something of the app file carries its origin.
The line table of the entry is read off the lines, so it cannot disagree with the text.
-/

namespace AppBundle

/-- A line of the entry module. -/
structure CodeLine where
  /-- Its text. -/
  text : String
  /-- Where it comes from. -/
  origin : Option LineOrigin

/-- A line that comes from nowhere. -/
def CodeLine.plain (text : String) : CodeLine :=
  ⟨text, none⟩

/-- A line that stands for a script. -/
def Script.codeLine (s : Script) (description text : String) : CodeLine :=
  ⟨text, some ⟨s.span.start.line, s.id, description⟩⟩

/-! ## Scripts that are loaded with the app -/

/-- A script that is loaded with the app, with its places in the order of all such scripts and in
the order of those kept in the app file. -/
structure LoadedScript where
  /-- The script. -/
  script : Script
  /-- Its place among all scripts that are loaded. -/
  index : Nat
  /-- Its place among those kept in the app file, unless it is kept outside. -/
  inlineIndex : Option Nat

/-- Scripts numbered from given places on. -/
def numberLoaded : Nat → Nat → List Script → List LoadedScript
  | _, _, [] => []
  | index, inlineIndex, s :: rest =>
    match s.reference with
    | some _ => ⟨s, index, none⟩ :: numberLoaded (index + 1) inlineIndex rest
    | none => ⟨s, index, some inlineIndex⟩ :: numberLoaded (index + 1) (inlineIndex + 1) rest

/-- The scripts of a kind. -/
def App.scriptsOf (a : App) (kind : Timing) : List Script :=
  a.scripts.filter (·.kind = kind)

/-- The scripts that are loaded with an app. -/
def App.loaded (a : App) : List LoadedScript :=
  numberLoaded 0 0 (a.scriptsOf .sync)

namespace LoadedScript

/-- The name under which the entry knows what the script exports. -/
def binding (l : LoadedScript) : String :=
  "__script_" ++ decimal l.index

/-- The line that imports the script. -/
def importLine (sourceId : String) (l : LoadedScript) : CodeLine :=
  match l.inlineIndex with
  | some i =>
    l.script.codeLine "script"
      ("import * as " ++ l.binding ++ " from \"./" ++ inlineFile i ++ "\";")
  | none =>
    l.script.codeLine "script src"
      (importAll l.binding (absoluteReference sourceId (l.script.reference.getD "")))

/-- What a warning about the exports of the script calls it. -/
def label (l : LoadedScript) : String :=
  match l.inlineIndex with
  | some i => inlineFile i
  | none => l.script.reference.getD ""

/-- The line that merges what the script exports. -/
def mergeLine (l : LoadedScript) : CodeLine :=
  l.script.codeLine "script exports"
    ("__melkerMergeExports($app, " ++ l.binding ++ ", " ++ Code.literal l.label ++ ");")

/-- The module of the script, unless it is kept outside. -/
def module? (sourceId : String) (l : LoadedScript) : Option (Module × ModuleOrigin) :=
  l.inlineIndex.map (l.script.inlineModule sourceId)

end LoadedScript

/-- The function that merges the exports of a script into those of the app. -/
def mergeFunction : List String := [
  "function __melkerMergeExports(target, source, origin) \x7b",
  "  for (const key of Object.keys(source)) \x7b",
  "    if (Object.prototype.hasOwnProperty.call(target, key)) \x7b",
  "      $melker.logger?.warn?.(`Export \"$\x7bkey\x7d\" from $\x7borigin\x7d overrides an earlier script export`);",
  "    \x7d",
  "    target[key] = source[key];",
  "  \x7d",
  "\x7d"]

/-- The function and its calls; left out if there is nothing to merge. -/
def mergeSection (ls : List LoadedScript) : List CodeLine :=
  if ls.isEmpty then [] else mergeFunction.map .plain ++ ls.map LoadedScript.mergeLine

/-! ## Scripts that run at fixed moments -/

/-- A script with its place among those of its kind. -/
structure MomentScript where
  /-- The script. -/
  script : Script
  /-- Its place among the scripts of its kind. -/
  index : Nat

/-- The scripts that run at fixed moments in the order of the file, each with its place among those
of its kind. -/
def numberMoments : Nat → Nat → List Script → List MomentScript
  | _, _, [] => []
  | inits, readies, s :: rest =>
    match s.kind with
    | .sync => numberMoments inits readies rest
    | .init => ⟨s, inits⟩ :: numberMoments (inits + 1) readies rest
    | .ready => ⟨s, readies⟩ :: numberMoments inits (readies + 1) rest

/-- The scripts of an app that run at fixed moments. -/
def App.moments (a : App) : List MomentScript :=
  numberMoments 0 0 a.scripts

namespace MomentScript

/-- What the lines of the script are. -/
def description (m : MomentScript) : String :=
  m.script.kind.word ++ " script"

/-- The line that imports the function of the script. -/
def importLine (m : MomentScript) : CodeLine :=
  m.script.codeLine m.description
    ("import \x7b " ++ momentName m.script.kind m.index ++ " \x7d from \"./"
      ++ momentFile m.script.kind m.index ++ "\";")

/-- The line that awaits the script. -/
def awaitLine (m : MomentScript) : CodeLine :=
  m.script.codeLine m.description ("  await " ++ momentName m.script.kind m.index ++ "();")

/-- The module of the script. -/
def toModule (sourceId : String) (m : MomentScript) : Module × ModuleOrigin :=
  m.script.momentModule sourceId m.index

end MomentScript

/-- The function that awaits scripts in turn; left out if there are none. -/
def awaitSection (name : String) (ms : List MomentScript) : List CodeLine :=
  if ms.isEmpty then []
  else
    .plain ("async function " ++ name ++ "() \x7b") :: ms.map MomentScript.awaitLine
      ++ [.plain "\x7d"]

/-! ## Handlers -/

/-- The handlers without those whose name came before or is among the given ones. -/
def firstHandlers : List String → List Handler → List Handler
  | _, [] => []
  | seen, h :: rest =>
    if h.id ∈ seen then firstHandlers seen rest
    else h :: firstHandlers (h.id :: seen) rest

/-- The handlers whose name came before or is among the given ones. -/
def repeatedHandlers : List String → List Handler → List Handler
  | _, [] => []
  | seen, h :: rest =>
    if h.id ∈ seen then h :: repeatedHandlers seen rest
    else repeatedHandlers (h.id :: seen) rest

/-- The handlers of an app that are generated: of several with one name the first. -/
def App.generatedHandlers (a : App) : List Handler :=
  firstHandlers [] a.handlers

/-- The element as a comment shows it. -/
def Element.label (e : Element) : String :=
  match e.id with
  | some id => "<" ++ e.tag ++ "#" ++ id ++ ">"
  | none => "<" ++ e.tag ++ ">"

namespace Handler

/-- What the lines of a handler are. -/
def description (h : Handler) : String :=
  h.attr ++ " on " ++ h.element.label

/-- The parameters with commas between them. -/
def paramList (h : Handler) : String :=
  String.intercalate ", " h.params

/-- The line that opens the function of a handler. -/
def opening (h : Handler) : String :=
  (if h.awaits then "async function " else "function ") ++ h.id ++ "(" ++ h.paramList ++ ") \x7b"

/-- The lines of the code of a handler, without empty ones at its end. -/
def bodyLines (h : Handler) : List String :=
  (Text.pieces (Text.trimRight (· = '\n') (withFeeds h.code).toList)).map String.ofList

/-- The lines of a body with their origins, from a line of the app file on. -/
def bodyFrom (h : Handler) : Nat → List String → List CodeLine
  | _, [] => []
  | line, l :: rest => ⟨l, some ⟨line, h.id, h.description⟩⟩ :: bodyFrom h (line + 1) rest

/-- The function of a handler. -/
def codeLines (h : Handler) : List CodeLine :=
  .plain ("// " ++ h.description ++ " (line " ++ decimal h.element.line ++ ")")
    :: .plain h.opening :: h.bodyFrom h.codeSpan.start.line h.bodyLines ++ [.plain "\x7d"]

/-- The diagnostic about a handler whose name came before. -/
def repeatedDiagnostic (h : Handler) : Diagnostic :=
  .warningOn (h.attr ++ " on line " ++ decimal h.element.line)
    ("Duplicate handler id `" ++ h.id ++ "` skipped")

end Handler

/-! ## The registry -/

/-- The members that the registry publishes. -/
def registryMembers (moments : List MomentScript) (handlers : List Handler) : List String :=
  (if moments.any (·.script.kind = .init) then ["init: " ++ initName] else [])
    ++ (if moments.any (·.script.kind = .ready) then ["ready: " ++ readyName] else [])
    ++ handlers.map (·.id)

/-- The assignment that publishes the registry. -/
def registrySection (members : List String) : List CodeLine :=
  if members.isEmpty then [.plain ("globalThis." ++ registryName ++ " = \x7b\x7d;")]
  else
    .plain ("globalThis." ++ registryName ++ " = \x7b")
      :: members.map (fun m => .plain ("  " ++ m ++ ",")) ++ [.plain "\x7d;"]

/-! ## The whole entry -/

/-- The declarations of what every script may use. -/
def contextSection (sourceId : String) : List CodeLine := [
  .plain ("// Generated by melker-bundler from " ++ onOneLine sourceId ++ ". Do not edit."),
  .plain contextLine,
  .plain "if (!$melker) throw new Error(\"melker: execution context missing (globalThis.$melker)\");",
  .plain argumentsLine,
  .plain "const $app = ($melker.exports ??= \x7b\x7d);"]

/-- The lines of the entry module in front of the handlers. -/
def App.scriptLines (a : App) : List CodeLine :=
  contextSection a.sourceId
    ++ a.loaded.map (LoadedScript.importLine a.sourceId)
    ++ mergeSection a.loaded
    ++ a.moments.map MomentScript.importLine
    ++ awaitSection initName (a.moments.filter (·.script.kind = .init))
    ++ awaitSection readyName (a.moments.filter (·.script.kind = .ready))

/-- The lines of the entry module. -/
def App.codeLines (a : App) : List CodeLine :=
  a.scriptLines
    ++ a.generatedHandlers.flatMap Handler.codeLines
    ++ registrySection (registryMembers a.moments a.generatedHandlers)

/-- The text of lines, each ended by a line feed. -/
def entryText (ls : List CodeLine) : String :=
  String.ofList (Text.unlines (ls.map (·.text.toList)))

/-- The origins among lines that are counted from a given number on. -/
def numberOrigins : Nat → List CodeLine → List (Nat × LineOrigin)
  | _, [] => []
  | n, l :: rest =>
    match l.origin with
    | some o => (n, o) :: numberOrigins (n + 1) rest
    | none => numberOrigins (n + 1) rest

/-- The modules of an app with the origins of their lines. -/
def App.modules (a : App) : List (Module × ModuleOrigin) :=
  a.loaded.filterMap (LoadedScript.module? a.sourceId)
    ++ a.moments.map (MomentScript.toModule a.sourceId)

/-- All that is generated for an app. -/
def App.generated (a : App) : Generated where
  entry := entryText a.codeLines
  modules := a.modules.map (·.1)
  lineTable := .ofList (numberOrigins 1 a.codeLines)
  origins := a.modules.map (·.2)
  content := a.content
  sourceId := a.sourceId
  diagnostics := (repeatedHandlers [] a.handlers).map Handler.repeatedDiagnostic

end AppBundle
