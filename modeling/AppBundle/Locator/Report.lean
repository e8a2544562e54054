import AppBundle.Json.Value
import AppBundle.Locator

/-!
# Showing located stack traces

The text that is shown for a located stack trace names only the frames in the app file, each with
its line if it is known.
-/

namespace AppBundle

open AppBundle.Json

/-- A number behind blanks that fill four places. -/
def inFourPlaces (n : Nat) : String :=
  let ds := Text.numeral n
  String.ofList (List.replicate (4 - ds.length) ' ' ++ ds)

/-- The lines that show a frame. -/
def LocatedFrame.show (f : LocatedFrame) : String :=
  let place := "  at " ++ f.function ++ " (" ++ f.file ++ ":" ++ decimal f.line ++ ")\n"
  match f.lineText with
  | some text => place ++ "    " ++ inFourPlaces f.line ++ " | " ++ trimmedEnd text ++ "\n"
  | none => place

/-- The frames that are in the app file. -/
def LocatedTrace.inApp (t : LocatedTrace) : List LocatedFrame :=
  t.frames.filter (·.isInApp)

/-- The text that is shown for a stack trace. -/
def LocatedTrace.show (t : LocatedTrace) : String :=
  let message := if t.message.isEmpty then "Error" else t.message
  let frames :=
    if t.inApp.isEmpty then "  (no frames could be mapped to the source file)\n"
    else String.join (t.inApp.map LocatedFrame.show)
  message ++ "\n" ++ frames

/-- The word for what the code of a frame is. -/
def CodeKind.word : CodeKind → String
  | .script => "script"
  | .handler => "handler"
  | .init => "init"
  | .ready => "ready"
  | .unknown => "unknown"

/-- A frame as JSON. -/
def StackFrame.toJson (f : StackFrame) : Value :=
  .object [
    ("function_name", .optional .string f.function), ("file", .string f.file),
    ("line", .nat f.line), ("column", .nat f.column)]

/-- A located frame as JSON. -/
def LocatedFrame.toJson (f : LocatedFrame) : Value :=
  .object [
    ("functionName", .string f.function), ("file", .string f.file), ("line", .nat f.line),
    ("column", .optional .nat f.column), ("sourceLine", .optional .string f.lineText),
    ("kind", .string f.kind.word), ("raw", f.raw.toJson)]

end AppBundle
