import AppBundle.App.Basic
import AppBundle.Code.Literal
import AppBundle.Generated.Basic
import AppBundle.Import.Resolve

/-!
# Modules of scripts

The text of the module of a script: a comment that names the script, declarations of what every
script may use, and the code of the script. A script that runs at a fixed moment is wrapped in a
function.
-/

namespace AppBundle

/-- Declarations in front of every script. -/
def contextLine : String := "const $melker = globalThis.$melker;"

/-- The declaration of the arguments. -/
def argumentsLine : String := "const argv = globalThis.argv ?? [];"

/-- A text with its line ends made blanks, so that it stays on one line. -/
def onOneLine (s : String) : String :=
  String.ofList (s.toList.map fun c => if c = '\n' || c = '\r' then ' ' else c)

/-- A text with every line end made a line feed. -/
def withFeeds (s : String) : String :=
  String.ofList (Text.unifyFeeds s.toList)

/-- The code of a script as it stands in its module. -/
def Script.moduleCode (s : Script) (sourceId : String) : String :=
  Import.resolveAll sourceId (withFeeds s.code)

/-- The lines in front of the code of every module. -/
def Script.header (s : Script) (sourceId file : String) : List String :=
  ["// " ++ file ++ ": " ++ s.kind.word ++ " script from " ++ onOneLine sourceId ++ ":"
      ++ decimal s.span.start.line,
    contextLine, argumentsLine]

/-- The text of a module: its header, its code right behind the last line of the header, and a line
that closes it. -/
def moduleText (header : List String) (code : String) (footer : Option String) : String :=
  let text := String.intercalate "\n" header ++ code
  let text := if Text.endsIn ['\n'] text.toList then text else text ++ "\n"
  match footer with
  | some line => text ++ line ++ "\n"
  | none => text

/-- The module of a script and where its lines come from. -/
def Script.toModule (s : Script) (file : String) (header : List String) (code : String)
    (footer : Option String) : Module × ModuleOrigin :=
  (⟨file, moduleText header code footer, s.span.start.line, s.id⟩,
    ⟨file, s.span.start.line, header.length⟩)

/-- The file of a script that is loaded with the app and kept in the app file. -/
def inlineFile (i : Nat) : String :=
  "_inline_" ++ decimal i ++ ".ts"

/-- The module of a script that is loaded with the app. -/
def Script.inlineModule (s : Script) (sourceId : String) (i : Nat) : Module × ModuleOrigin :=
  let file := inlineFile i
  s.toModule file (s.header sourceId file) (s.moduleCode sourceId) none

/-- The file of a script that runs at a fixed moment. -/
def momentFile (kind : Timing) (i : Nat) : String :=
  "_" ++ kind.word ++ "_" ++ decimal i ++ ".ts"

/-- The function of a script that runs at a fixed moment. -/
def momentName (kind : Timing) (i : Nat) : String :=
  "__" ++ kind.word ++ "_" ++ decimal i

/-- The import of everything that a module exports. -/
def importAll (binding url : String) : String :=
  "import * as " ++ binding ++ " from " ++ Code.literal url ++ ";"

/-- The call of the function that an outside script exports. -/
def callOutside : String :=
  "\nif (typeof __external.default === \"function\") await __external.default($melker);"

/-- The module of a script that runs at a fixed moment: a function around its code, or around the
call of the outside script that it refers to. -/
def Script.momentModule (s : Script) (sourceId : String) (i : Nat) : Module × ModuleOrigin :=
  let file := momentFile s.kind i
  let opening := [
    "export async function " ++ momentName s.kind i ++ "() \x7b",
    "const $app = $melker.exports;"]
  match s.reference with
  | some reference =>
    let outside := importAll "__external" (absoluteReference sourceId reference)
    s.toModule file (s.header sourceId file ++ [outside] ++ opening) callOutside (some "\x7d")
  | none =>
    s.toModule file (s.header sourceId file ++ opening) (s.moduleCode sourceId) (some "\x7d")

end AppBundle
