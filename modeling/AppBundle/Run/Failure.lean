import AppBundle.Host.Basic
import AppBundle.Locator.Report

/-!
# Failures of running apps

An error that code of an app raised is reported in terms of the app file, with the raw text behind
it. Before the app runs such a failure is fatal; a handler that fails leaves the app running.
-/

namespace AppBundle

/-- A failure in terms of the app file. -/
structure LocatedFailure where
  /-- The stack trace in terms of the app file. -/
  trace : LocatedTrace
  /-- The text as it was raised. -/
  raw : String

/-- The text that is shown for a failure. -/
def LocatedFailure.show (f : LocatedFailure) : String :=
  f.trace.show ++ "\nRaw error:\n" ++ trimmedEnd f.raw

/-- A failure in terms of the app file, the locator behind it, and what is logged. -/
def Locator.failure (t : Locator) (f : Thrown) :
    LocatedFailure × Locator × List String :=
  let (trace, t, logs) := t.locate f.text
  (⟨trace, f.text⟩, t, logs)

/-- Why an app does not run. -/
inductive RunError where
  /-- The payload did not publish a registry. -/
  | malformed (sourceId : String)
  /-- The payload failed to load. -/
  | load (failure : LocatedFailure)
  /-- What has to be done before the app starts failed. -/
  | init (failure : LocatedFailure)
  /-- What has to be done once the app is shown failed. -/
  | ready (failure : LocatedFailure)
  /-- The host does not do its part. -/
  | host (error : HostFault)
  /-- A file could not be written. -/
  | io (reason : String)

namespace RunError

/-- What a payload without a registry did not do. -/
def unpublished (sourceId : String) : String :=
  sourceId ++ " did not publish globalThis." ++ registryName

/-- The wording of an error. -/
def message : RunError → String
  | .malformed sourceId => "malformed bundle: " ++ unpublished sourceId
  | .load f => "bundle failed to load: " ++ f.trace.message
  | .init f => "init failed: " ++ f.trace.message
  | .ready f => "ready failed: " ++ f.trace.message
  | .host e => e.message
  | .io reason => "IO error: " ++ reason

/-- The failure of the code of the app, if that is the reason. -/
def failure? : RunError → Option LocatedFailure
  | .load f => some f
  | .init f => some f
  | .ready f => some f
  | _ => none

/-- The text that is shown when an app ends with an error. -/
def report : RunError → String
  | .load f => "Error while loading the app:\n" ++ f.show
  | .init f => "Error in async init:\n" ++ f.show
  | .ready f => "Error in async ready:\n" ++ f.show
  | .malformed sourceId =>
    "Malformed bundle: " ++ unpublished sourceId ++ "\nThe payload must publish globalThis."
      ++ registryName ++ "."
  | e => e.message

end RunError

/-- Why a handler is not done. -/
inductive CallError where
  /-- There is no such handler. -/
  | unknown (id : String)
  /-- The handler failed; where it is defined is told if it is known. -/
  | failed (id : String) (location : Option String) (failure : LocatedFailure)
  /-- The host does not do its part. -/
  | host (error : HostFault)

/-- The wording of an error. -/
def CallError.message : CallError → String
  | .unknown id => "no handler `" ++ id ++ "` in the registry"
  | .failed id _ f => "handler `" ++ id ++ "` failed: " ++ f.trace.message
  | .host e => e.message

end AppBundle
