import AppBundle.Json.Value

/-!
# Diagnostics

What bundling has to say besides its result.
-/

namespace AppBundle

/-- How serious a diagnostic is. -/
inductive Severity where
  /-- Something failed. -/
  | error
  /-- Something is not as it should be. -/
  | warning
  /-- Something to know. -/
  | info
  deriving Repr, DecidableEq

/-- A diagnostic. -/
structure Diagnostic where
  /-- How serious it is. -/
  severity : Severity
  /-- What it says. -/
  message : String
  /-- What it is about. -/
  context : Option String
  deriving Repr, DecidableEq

namespace Diagnostic

/-- A warning about something in particular. -/
def warningOn (context message : String) : Diagnostic :=
  ⟨.warning, message, some context⟩

/-- A warning. -/
def warning (message : String) : Diagnostic :=
  ⟨.warning, message, none⟩

/-- Something to know. -/
def info (message : String) : Diagnostic :=
  ⟨.info, message, none⟩

end Diagnostic

open AppBundle.Json

/-- The word for a severity. -/
def Severity.word : Severity → String
  | .error => "Error"
  | .warning => "Warning"
  | .info => "Info"

/-- A diagnostic as JSON. -/
def Diagnostic.toJson (d : Diagnostic) : Value :=
  .object [
    ("level", .string d.severity.word), ("message", .string d.message),
    ("context", .optional .string d.context)]

end AppBundle
