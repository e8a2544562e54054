import AppBundle.Run.Failure

/-!
# Running apps

The members of a running app are called one at a time: `ready` once at most, and handlers as often
as their events occur. A member that the app did not publish never reaches the host, and an app
whose handler failed goes on as it was.
-/

namespace AppBundle

open AppBundle.Json

/-- A running app. -/
structure RunningApp where
  /-- The members that the app published. -/
  registry : Registry
  /-- What puts its stack traces in terms of the app file. -/
  locator : Locator
  /-- Whether it was told that it is shown. -/
  readyAsked : Bool
  /-- The folder of its files. -/
  folder : Path

/-- What a call of an app gives. -/
structure Reply (α : Type) where
  /-- The result. -/
  result : α
  /-- The app behind the call. -/
  app : RunningApp
  /-- What is logged. -/
  logs : List String

namespace RunningApp

variable {σ : Type}

/-- Whether an app has a handler. -/
def offers (a : RunningApp) (id : String) : Bool :=
  a.registry.handlers.contains id

/-- A failure of the app in terms of the app file. -/
def failure (a : RunningApp) (f : Thrown) : Reply LocatedFailure :=
  let (failure, locator, logs) := a.locator.failure f
  ⟨failure, { a with locator }, logs⟩

/-- The answer of a host to a call outside of handlers; `wrap` says what failed. -/
def settle (a : RunningApp) (wrap : LocatedFailure → RunError) :
    Except HostFault Unit → Reply (Except RunError Unit)
  | .ok () => ⟨.ok (), a, []⟩
  | .error (.script f) =>
    let r := a.failure f
    ⟨.error (wrap r.result), r.app, r.logs⟩
  | .error e => ⟨.error (.host e), a, []⟩

/-- Does what has to be done before the app starts. -/
def start (a : RunningApp) (h : Host σ) : StateM σ (Reply (Except RunError Unit)) := do
  if a.registry.init then return a.settle .init (← h.invoke "init" none)
  else return ⟨.ok (), a, []⟩

/-- Tells the app once that it is shown. The result says whether it was told now. -/
def ready (a : RunningApp) (h : Host σ) : StateM σ (Reply (Except RunError Bool)) := do
  let told := { a with readyAsked := true }
  if a.readyAsked then return ⟨.ok false, a, []⟩
  else if a.registry.ready then
    let r := told.settle .ready (← h.invoke "ready" none)
    return ⟨r.result.map fun _ => true, r.app, r.logs⟩
  else return ⟨.ok false, told, []⟩

/-- The answer of a host to a call of a handler. -/
def settleHandler (a : RunningApp) (id : String) :
    Except HostFault Unit → Reply (Except CallError Unit)
  | .ok () => ⟨.ok (), a, []⟩
  | .error (.script f) =>
    let r := a.failure f
    ⟨.error (.failed id (r.app.locator.location? id) r.result), r.app,
      r.logs ++ ["handler failed: " ++ r.result.trace.message]⟩
  | .error e => ⟨.error (.host e), a, []⟩

/-- Calls a handler with an event. -/
def handle (a : RunningApp) (h : Host σ) (id : String) (event : Option Value) :
    StateM σ (Reply (Except CallError Unit)) := do
  if a.offers id then return a.settleHandler id (← h.invoke id event)
  else return ⟨.error (.unknown id), a, []⟩

end RunningApp

end AppBundle
