import AppBundle.Json.Printer
import AppBundle.Json.Tagged
import AppBundle.Text.Blank

/-!
# Messages between the bundler and a running app

An app publishes a *registry*: functions by name, among them `init` and `ready`. What goes back and
forth are commands to call its members and the answers to them, one JSON text on a line.
-/

namespace AppBundle

open AppBundle.Json

/-- The members of a registry. -/
structure Registry where
  /-- Whether there is something to do before the app starts. -/
  init : Bool
  /-- Whether there is something to do once the app is shown. -/
  ready : Bool
  /-- The ids of the handlers. -/
  handlers : List String
  deriving Repr, DecidableEq

/-- An error that code of the app raised. -/
structure Thrown where
  /-- Its message. -/
  message : String
  /-- Its stack trace; it may be empty. -/
  stack : String
  deriving Repr, DecidableEq

/-- What a running app tells. -/
inductive HostSignal where
  /-- The code is loaded and has published its registry. -/
  | loaded (registry : Registry)
  /-- The code is loaded but has published nothing. -/
  | malformed
  /-- A call is done. -/
  | done
  /-- The code or a call failed. -/
  | failed (failure : Thrown)
  /-- The app calls a member of its context. -/
  | context (member : String) (arguments : Value)

/-- What a running app is told. -/
inductive Command where
  /-- Call a member, perhaps with an event. -/
  | invoke (member : String) (event : Option Value)
  /-- End. -/
  | close

namespace Registry

/-- Reads the members of a registry. -/
def decoder : Decoder Registry :=
  ((Shape.required "init" .bool).and ((Shape.required "ready" .bool).and
      (Shape.required "handlers" (.list .string)))
    |>.map fun (init, ready, handlers) => ⟨init, ready, handlers⟩).record "struct RegistryShape"

/-- The members of a registry as a diagnostic shows them. -/
def description (s : Registry) : String :=
  let flag (b : Bool) : String := if b then "true" else "false"
  "RegistryShape \x7b init: " ++ flag s.init ++ ", ready: " ++ flag s.ready ++ ", handlers: "
    ++ quotedList s.handlers ++ " \x7d"

end Registry

namespace Thrown

/-- Reads an error. -/
def decoder : Decoder Thrown :=
  ((Shape.required "message" .string).and (Shape.withDefault "stack" "" .string)
    |>.map fun (message, stack) => ⟨message, stack⟩).record "struct ScriptFailure"

/-- The text that tells most about an error: its stack trace, or its message if that is blank. -/
def text (f : Thrown) : String :=
  if (trimmed f.stack).isEmpty then f.message else f.stack

end Thrown

namespace HostSignal

/-- Reads a call of the context. -/
def contextDecoder : Decoder HostSignal :=
  ((Shape.required "member" .string).and (Shape.required "args" .any)
    |>.map fun (member, arguments) => context member arguments).record
      "struct variant HostMessage::Context"

/-- Reads a message. -/
def decoder : Decoder HostSignal :=
  .tagged "internally tagged enum HostMessage" "type" [
    ("loaded", Registry.decoder.map loaded), ("malformed", .nameOnly malformed),
    ("done", .nameOnly done), ("failed", Thrown.decoder.map failed),
    ("context", contextDecoder)]

/-- A message as a diagnostic shows it. -/
def description : HostSignal → String
  | .loaded s => "Loaded(" ++ s.description ++ ")"
  | .malformed => "Malformed"
  | .done => "Done"
  | .failed f =>
    "Failed(ScriptFailure \x7b message: " ++ quoted f.message ++ ", stack: " ++ quoted f.stack
      ++ " \x7d)"
  | .context member arguments =>
    "Context \x7b member: " ++ quoted member ++ ", args: " ++ arguments.compact ++ " \x7d"

end HostSignal

namespace Command

/-- A command as JSON. -/
def toJson : Command → Value
  | .invoke member event =>
    .object [
      ("type", .string "invoke"), ("member", .string member), ("event", .optional id event)]
  | .close => .object [("type", .string "close")]

/-- The line on which a command is sent. -/
def line (c : Command) : String :=
  c.toJson.compact ++ "\n"

end Command

end AppBundle
