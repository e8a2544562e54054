import AppBundle.Proofs.Locator
import AppBundle.Proofs.Run.Execute

/-!
# What a host is asked

A bundle is executed in a host, and then calls are made of the app: that is a *session*. Here a host
is watched, which changes nothing but keeps a list of what it was asked and of its answers, and the
list is shown to follow from the registry and the calls alone (`Assembled.session_disciplined`): the
payload is loaded, `init` is called if it is published, then `ready` with the first call for it, and
each handler that is published as often as it is called.

What a call of a handler leaves behind is the same whatever the host answers, but for what the app
remembers of its source map (`RunningApp.calls_behind_handler`).
-/

namespace AppBundle

open AppBundle.Json

variable {σ : Type}

/-! ## Watched hosts -/

/-- What a host was asked, with its answer. -/
inductive HostEvent where
  /-- It was to load a payload. -/
  | loaded (answer : Except HostFault (Option Registry))
  /-- It was to call a member with an event. -/
  | invoked (member : String) (event : Option Value) (answer : Except HostFault Unit)

/-- The member and event of a call. -/
def HostEvent.request? : HostEvent → Option (String × Option Value)
  | loaded _ => none
  | invoked member event _ => some (member, event)

/-- The same host with a list of what it was asked in its state. -/
def Host.watched (h : Host σ) : Host (σ × List HostEvent) where
  files := h.files
  load disk payload c := fun (s, events) =>
    let (answer, s) := (h.load disk payload c).run s
    (answer, s, events ++ [.loaded answer])
  invoke member event := fun (s, events) =>
    let (answer, s) := (h.invoke member event).run s
    (answer, s, events ++ [.invoked member event answer])
  close := fun (s, events) =>
    let (answer, s) := h.close.run s
    (answer, s, events)

/-! ## Calls -/

/-- A call of a running app. -/
inductive AppCall where
  /-- The app is told that it is shown. -/
  | ready
  /-- A handler is called. -/
  | handle (id : String) (event : Option Value)

/-- Whether a call tells the app that it is shown. -/
def AppCall.isReady : AppCall → Bool
  | ready => true
  | handle _ _ => false

/-- The result of a call. -/
inductive CallResult where
  /-- Whether the app was told, or why not. -/
  | ready (result : Except RunError Bool)
  /-- Whether the handler is done. -/
  | handle (result : Except CallError Unit)

namespace RunningApp

/-- Makes a call. -/
def call (a : RunningApp) (h : Host σ) : AppCall → StateM σ (Reply CallResult)
  | .ready => do
    let r ← a.ready h
    return ⟨.ready r.result, r.app, r.logs⟩
  | .handle id event => do
    let r ← a.handle h id event
    return ⟨.handle r.result, r.app, r.logs⟩

/-- Makes calls one after the other. -/
def calls (a : RunningApp) (h : Host σ) : List AppCall → StateM σ (List (Reply CallResult))
  | [] => return []
  | c :: cs => do
    let r ← a.call h c
    return r :: (← r.app.calls h cs)

end RunningApp

/-- Executes a bundle and makes calls of the app, if it runs. -/
def Assembled.session (a : Assembled) (h : Host σ) (c : Context) (calls : List AppCall) :
    StateT σ InWorld (Launch × List (Reply CallResult)) := do
  let l ← a.execute h c
  match l.result with
  | .error _ => return (l, [])
  | .ok app => return (l, ← inHost (app.calls h calls))

/-! ## What calls ask for -/

namespace Registry

variable (r : Registry)

/-- What a call behind earlier ones asks the host for: `ready` if it is the first call for it, and a
handler if it is published. -/
def request? (earlier : List AppCall) : AppCall → Option (String × Option Value)
  | .ready => if r.ready && !earlier.any AppCall.isReady then some ("ready", none) else none
  | .handle id event => if r.handlers.contains id then some (id, event) else none

/-- What calls behind earlier ones ask the host for. -/
def requests (r : Registry) : List AppCall → List AppCall → List (String × Option Value)
  | _, [] => []
  | earlier, c :: cs => (r.request? earlier c).toList ++ r.requests (earlier ++ [c]) cs

variable {r}

theorem request?_eq_some {earlier : List AppCall} {c : AppCall} {x : String × Option Value}
    (hx : r.request? earlier c = some x) :
    (c = .ready ∧ r.ready = true ∧ earlier.any AppCall.isReady = false ∧ x = ("ready", none)) ∨
      (c = .handle x.1 x.2 ∧ x.1 ∈ r.handlers) := by
  cases c with
  | ready =>
    obtain ⟨hcond, heq⟩ := Option.ite_none_right_eq_some.mp hx
    simp only [Bool.and_eq_true, Bool.not_eq_true'] at hcond
    exact .inl ⟨rfl, hcond.1, hcond.2, (Option.some.inj heq).symm⟩
  | handle id event =>
    obtain ⟨hmem, heq⟩ := Option.ite_none_right_eq_some.mp hx
    obtain rfl := Option.some.inj heq
    exact .inr ⟨rfl, List.contains_iff_mem.mp hmem⟩

/-- Nothing is asked for but `ready` and the handlers that are called. -/
theorem of_mem_requests {earlier calls : List AppCall} {x : String × Option Value}
    (hx : x ∈ r.requests earlier calls) :
    (x = ("ready", none) ∧ r.ready = true) ∨ (x.1 ∈ r.handlers ∧ .handle x.1 x.2 ∈ calls) := by
  induction calls generalizing earlier with
  | nil => exact absurd hx List.not_mem_nil
  | cons c cs ih =>
    rcases List.mem_append.mp hx with hx | hx
    · rcases request?_eq_some (Option.mem_toList.mp hx) with ⟨-, hready, -, heq⟩ | ⟨rfl, hmem⟩
      · exact .inl ⟨heq, hready⟩
      · exact .inr ⟨hmem, List.mem_cons_self⟩
    · rcases ih hx with hready | ⟨hmem, hcall⟩
      · exact .inl hready
      · exact .inr ⟨hmem, List.mem_cons_of_mem c hcall⟩

/-- Behind a call for it, `ready` is not asked for. -/
theorem ready_notMem_requests (hready : "ready" ∉ r.handlers) {earlier : List AppCall}
    (hearlier : earlier.any AppCall.isReady = true) (calls : List AppCall) :
    "ready" ∉ (r.requests earlier calls).map (·.1) := by
  induction calls generalizing earlier with
  | nil => exact List.not_mem_nil
  | cons c cs ih =>
    rw [requests, List.map_append, List.mem_append, not_or]
    refine ⟨fun hmem => ?_, ih (by rw [List.any_append, hearlier, Bool.true_or])⟩
    obtain ⟨x, hx, heq⟩ := List.mem_map.mp hmem
    rcases request?_eq_some (Option.mem_toList.mp hx) with ⟨-, -, hnone, -⟩ | ⟨-, hid⟩
    · exact absurd hearlier (by simp [hnone])
    · exact hready (heq ▸ hid)

/-- No calls ask for `ready` twice. -/
theorem count_ready_requests (hready : "ready" ∉ r.handlers) (earlier calls : List AppCall) :
    ((r.requests earlier calls).map (·.1)).count "ready" ≤ 1 := by
  induction calls generalizing earlier with
  | nil => exact Nat.zero_le 1
  | cons c cs ih =>
    rw [requests, List.map_append, List.count_append]
    cases c with
    | ready =>
      have hasked : (earlier ++ [AppCall.ready]).any AppCall.isReady = true := by
        rw [List.any_append, List.any_cons, AppCall.isReady, Bool.true_or, Bool.or_true]
      rw [List.count_eq_zero.mpr (ready_notMem_requests hready hasked cs), Nat.add_zero, request?]
      split <;> simp
    | handle id event =>
      have hfirst : "ready" ∉ (r.request? earlier (.handle id event)).toList.map (·.1) := by
        intro hmem
        obtain ⟨x, hx, heq⟩ := List.mem_map.mp hmem
        rcases request?_eq_some (Option.mem_toList.mp hx) with ⟨hcall, -⟩ | ⟨-, hid⟩
        · exact absurd hcall (by simp)
        · exact hready (heq ▸ hid)
      rw [List.count_eq_zero.mpr hfirst, Nat.zero_add]
      exact ih _

end Registry

/-! ## One call -/

namespace RunningApp

variable (a b : RunningApp) (h : Host σ)

/-- What a call asks the host for. -/
def asked? : AppCall → Option (String × Option Value)
  | .ready => if a.registry.ready && !a.readyAsked then some ("ready", none) else none
  | .handle id event => if a.offers id then some (id, event) else none

/-- The reply to a call that does not ask the host. -/
def unasked : AppCall → Reply CallResult
  | .ready => ⟨.ready (.ok false), { a with readyAsked := true }, []⟩
  | .handle id _ => ⟨.handle (.error (.unknown id)), a, []⟩

/-- The reply to a call that the host answers. -/
def answered (answer : Except HostFault Unit) : AppCall → Reply CallResult
  | .ready =>
    let r := { a with readyAsked := true }.settle .ready answer
    ⟨.ready (r.result.map fun _ => true), r.app, r.logs⟩
  | .handle id _ =>
    let r := a.settleHandler id answer
    ⟨.handle r.result, r.app, r.logs⟩

/-- A call asks the host once or not at all. -/
theorem run_call (c : AppCall) (s : σ) :
    (a.call h c).run s =
      match a.asked? c with
      | none => (a.unasked c, s)
      | some (member, event) =>
        let (answer, s) := (h.invoke member event).run s
        (a.answered answer c, s) := by
  cases c with
  | ready =>
    rcases a with ⟨registry, locator, told, folder⟩
    cases told <;> cases hready : registry.ready <;>
      simp [call, ready, asked?, unasked, answered, hready] <;> rfl
  | handle id event =>
    cases hoffers : a.offers id <;> simp [call, handle, asked?, unasked, answered, hoffers] <;> rfl

theorem failure_eq (f : Thrown) :
    a.failure f = ⟨(a.locator.failure f).1, { a with locator := (a.locator.failure f).2.1 },
      (a.locator.failure f).2.2⟩ := by
  unfold failure
  rcases a.locator.failure f with ⟨failure, locator, logs⟩
  rfl

/-- Whatever a host answers, the app stays as it is but for what it remembers of its source map. -/
theorem app_settle (wrap : LocatedFailure → RunError) (answer : Except HostFault Unit) :
    ∃ locator, (a.settle wrap answer).app = { a with locator } := by
  rcases answer with (f | f | f | f) | ⟨⟩
  case error.script =>
    rw [settle, failure_eq]
    exact ⟨_, rfl⟩
  all_goals exact ⟨a.locator, rfl⟩

theorem app_settleHandler (id : String) (answer : Except HostFault Unit) :
    ∃ locator, (a.settleHandler id answer).app = { a with locator } := by
  rcases answer with (f | f | f | f) | ⟨⟩
  case error.script =>
    rw [settleHandler, failure_eq]
    exact ⟨_, rfl⟩
  all_goals exact ⟨a.locator, rfl⟩

theorem run_calls_cons (c : AppCall) (cs : List AppCall) (s : σ) :
    (a.calls h (c :: cs)).run s =
      (((a.call h c).run s).1 ::
          ((((a.call h c).run s).1.app.calls h cs).run ((a.call h c).run s).2).1,
        ((((a.call h c).run s).1.app.calls h cs).run ((a.call h c).run s).2).2) := rfl

/-- A call leaves the registry, and that the app was told if it was. -/
theorem app_call (c : AppCall) (s : σ) :
    ∃ locator, ((a.call h c).run s).1.app =
      { a with readyAsked := a.readyAsked || c.isReady, locator } := by
  rw [run_call]
  cases a.asked? c with
  | none =>
    refine ⟨a.locator, ?_⟩
    cases c with
    | ready => simp [unasked, AppCall.isReady]
    | handle id event => simp [unasked, AppCall.isReady]
  | some request =>
    cases c with
    | ready =>
      obtain ⟨locator, hsettle⟩ := { a with readyAsked := true }.app_settle .ready
        ((h.invoke request.1 request.2).run s).1
      refine ⟨locator, hsettle.trans ?_⟩
      simp [AppCall.isReady]
    | handle id event =>
      obtain ⟨locator, hsettle⟩ := a.app_settleHandler id ((h.invoke request.1 request.2).run s).1
      refine ⟨locator, hsettle.trans ?_⟩
      simp [AppCall.isReady]

/-- An app that knows whether it was told asks for what the registry has it ask for. -/
theorem asked?_eq_request? {earlier : List AppCall}
    (ha : a.readyAsked = earlier.any AppCall.isReady) (c : AppCall) :
    a.asked? c = a.registry.request? earlier c := by
  cases c with
  | ready => rw [asked?, Registry.request?, ha]
  | handle id event => rfl

/-- The host is asked for what a call asks for and for nothing else. -/
theorem events_call (c : AppCall) (s : σ) (events : List HostEvent) :
    ∃ now, ((a.call h.watched c).run (s, events)).2.2 = events ++ now ∧
      now.map (·.request?) = (a.asked? c).toList.map some := by
  rw [run_call]
  cases a.asked? c with
  | none => exact ⟨[], (List.append_nil events).symm, rfl⟩
  | some request => exact ⟨[.invoked request.1 request.2 _], rfl, rfl⟩

/-- What calls ask a watched host for follows from the registry and the calls. -/
theorem events_calls {earlier : List AppCall} (ha : a.readyAsked = earlier.any AppCall.isReady)
    (calls : List AppCall) (s : σ) (events : List HostEvent) :
    ∃ later, ((a.calls h.watched calls).run (s, events)).2.2 = events ++ later ∧
      later.map (·.request?) = (a.registry.requests earlier calls).map some := by
  induction calls generalizing a earlier s events with
  | nil => exact ⟨[], (List.append_nil events).symm, rfl⟩
  | cons c cs ih =>
    obtain ⟨now, hnow, hrequest⟩ := a.events_call h c s events
    obtain ⟨locator, happ⟩ := a.app_call h.watched c (s, events)
    have htold : ((a.call h.watched c).run (s, events)).1.app.readyAsked =
        (earlier ++ [c]).any AppCall.isReady := by
      simp [happ, ha]
    obtain ⟨later, hlater, hrequests⟩ :=
      ih _ htold ((a.call h.watched c).run (s, events)).2.1 (events ++ now)
    rw [happ] at hrequests
    refine ⟨now ++ later, ?_, ?_⟩
    · rw [← List.append_assoc, ← hlater, ← hnow]
      rfl
    · rw [List.map_append, hrequest, hrequests, a.asked?_eq_request? ha, Registry.requests,
        List.map_append]

/-- Watching a host changes nothing. -/
theorem watched_call (c : AppCall) (s : σ) (events : List HostEvent) :
    (a.call h c).run s =
      (((a.call h.watched c).run (s, events)).1, ((a.call h.watched c).run (s, events)).2.1) := by
  rw [run_call, run_call]
  cases a.asked? c <;> rfl

theorem watched_calls (calls : List AppCall) (s : σ) (events : List HostEvent) :
    (a.calls h calls).run s = (((a.calls h.watched calls).run (s, events)).1,
      ((a.calls h.watched calls).run (s, events)).2.1) := by
  induction calls generalizing a s events with
  | nil => rfl
  | cons c cs ih =>
    rw [run_calls_cons, run_calls_cons, a.watched_call h c s events, ih]

end RunningApp

/-! ## Starting -/

/-- What a host was asked to start an app. -/
def Registry.startEvents (r : Registry) : List HostEvent :=
  if r.init then [.invoked "init" none (.ok ())] else []

/-- What a host was asked when a bundle was executed, by the result: an app runs only if its payload
was loaded and `init` is done, if it is published. -/
inductive Started : Except RunError RunningApp → List HostEvent → Prop where
  /-- The code could not be written. -/
  | unasked (e : RunError) : Started (.error e) []
  /-- The payload was not loaded, or published nothing. -/
  | notLoaded (e : RunError) {answer : Except HostFault (Option Registry)}
      (hanswer : ∀ r, answer ≠ .ok (some r)) : Started (.error e) [.loaded answer]
  /-- What is to be done before the app starts failed. -/
  | notStarted (e : RunError) {r : Registry} (hinit : r.init = true) (fault : HostFault) :
      Started (.error e) [.loaded (.ok (some r)), .invoked "init" none (.error fault)]
  /-- The app runs. -/
  | running {app : RunningApp} (hready : app.readyAsked = false) :
      Started (.ok app) (.loaded (.ok (some app.registry)) :: app.registry.startEvents)

namespace RunningApp

variable (a : RunningApp) (h : Host σ)

theorem run_start (s : σ) :
    (a.start h).run s =
      if a.registry.init then
        let (answer, s) := (h.invoke "init" none).run s
        (a.settle .init answer, s)
      else (⟨.ok (), a, []⟩, s) := by
  unfold start
  split <;> rfl

theorem watched_start (s : σ) (events : List HostEvent) :
    (a.start h).run s =
      (((a.start h.watched).run (s, events)).1, ((a.start h.watched).run (s, events)).2.1) := by
  rw [run_start, run_start]
  split <;> rfl

theorem settle_error (wrap : LocatedFailure → RunError) (fault : HostFault) :
    ∃ e, (a.settle wrap (.error fault)).result = .error e := by
  cases fault with
  | script f =>
    rw [settle, failure_eq]
    exact ⟨_, rfl⟩
  | unavailable | protocol | io => exact ⟨_, rfl⟩

/-- An app that is loaded runs if `init` is done. -/
theorem started_start (ha : a.readyAsked = false) (s : σ) :
    let out := (a.start h.watched).run (s, [.loaded (.ok (some a.registry))])
    Started (out.1.result.map fun _ => out.1.app) out.2.2 := by
  rw [run_start]
  by_cases hinit : a.registry.init
  · rw [if_pos hinit]
    have hevents : (h.watched.invoke "init" none).run (s, [.loaded (.ok (some a.registry))]) =
        (((h.invoke "init" none).run s).1, ((h.invoke "init" none).run s).2,
          [.loaded (.ok (some a.registry)),
            .invoked "init" none ((h.invoke "init" none).run s).1]) := rfl
    rw [hevents]
    rcases (h.invoke "init" none).run s with ⟨fault | ⟨⟩, s'⟩
    · obtain ⟨e, he⟩ := a.settle_error .init fault
      simp only [he]
      exact .notStarted e hinit fault
    · have hstart : a.registry.startEvents = [.invoked "init" none (.ok ())] := by
        rw [Registry.startEvents, if_pos hinit]
      have hrunning := Started.running ha
      rwa [hstart] at hrunning
  · rw [if_neg hinit]
    have hstart : a.registry.startEvents = [] := by rw [Registry.startEvents, if_neg hinit]
    have hrunning := Started.running ha
    rwa [hstart] at hrunning

end RunningApp

namespace Assembled

variable (a : Assembled) (h : Host σ) (c : Context)

/-- A payload without a registry does not run. -/
theorem loaded_error (folder : Path) {answer : Except HostFault (Option Registry)}
    (hanswer : ∀ r, answer ≠ .ok (some r)) : ∃ e, (a.loaded folder answer).result = .error e := by
  rcases answer with (f | f | f | f) | (_ | r)
  case ok.some => exact absurd rfl (hanswer r)
  case error.script =>
    rw [loaded]
    rcases (a.bundle.locatorFor a.payloadName).failure f with ⟨failure, locator, logs⟩
    exact ⟨_, rfl⟩
  all_goals exact ⟨_, rfl⟩

theorem started_launch (folder : Path) (s : σ) (w : World) :
    let out := ((a.launch h.watched c folder).run (s, [])).run w
    Started out.1.1.result out.1.2.2 := by
  rw [run_launch, run_load]
  rcases (World.onDisk
    (attempt (Disk.writeText (folder ++ [a.payloadName]) a.bundle.code))).run w with ⟨f | ⟨⟩, w⟩
  · exact .unasked _
  · dsimp only
    rcases (World.onDisk (attempt (h.watched.writeFiles folder))).run w with ⟨f | ⟨⟩, w⟩
    · exact .unasked _
    · have hevents : (h.watched.load w.disk (folder ++ [a.payloadName]) c).run (s, []) =
          (((h.load w.disk (folder ++ [a.payloadName]) c).run s).1,
            ((h.load w.disk (folder ++ [a.payloadName]) c).run s).2,
            [.loaded ((h.load w.disk (folder ++ [a.payloadName]) c).run s).1]) := rfl
      dsimp only
      rw [hevents]
      rcases (h.load w.disk (folder ++ [a.payloadName]) c).run s with ⟨answer, s'⟩
      by_cases hanswer : ∃ r, answer = .ok (some r)
      · obtain ⟨r, rfl⟩ := hanswer
        exact RunningApp.started_start _ h rfl s'
      · obtain ⟨e, he⟩ := a.loaded_error folder (not_exists.mp hanswer)
        simp only [he]
        exact .notLoaded e (not_exists.mp hanswer)

theorem started_execute (s : σ) (w : World) :
    let out := ((a.execute h.watched c).run (s, [])).run w
    Started out.1.1.result out.1.2.2 := by
  rw [run_execute]
  rcases a.runFolder.run w with ⟨f | folder, w⟩
  · exact .unasked _
  · have hlaunch := a.started_launch h c folder s w
    dsimp only at hlaunch ⊢
    rcases hrun : ((a.launch h.watched c folder).run (s, [])).run w with ⟨⟨⟨e | app, logs⟩, s'⟩, w'⟩
      <;> rwa [hrun] at hlaunch

theorem watched_load (folder : Path) (s : σ) (events : List HostEvent) (w : World) :
    let out := ((a.load h.watched c folder).run (s, events)).run w
    ((a.load h c folder).run s).run w = ((out.1.1, out.1.2.1), out.2) := by
  have hfiles : h.watched.writeFiles folder = h.writeFiles folder := rfl
  rw [run_load, run_load, hfiles]
  rcases (World.onDisk
    (attempt (Disk.writeText (folder ++ [a.payloadName]) a.bundle.code))).run w with ⟨f | ⟨⟩, w⟩
  · rfl
  · dsimp only
    rcases (World.onDisk (attempt (h.writeFiles folder))).run w with ⟨f | ⟨⟩, w⟩ <;> rfl

theorem watched_launch (folder : Path) (s : σ) (events : List HostEvent) (w : World) :
    let out := ((a.launch h.watched c folder).run (s, events)).run w
    ((a.launch h c folder).run s).run w = ((out.1.1, out.1.2.1), out.2) := by
  rw [run_launch, run_launch, a.watched_load h c folder s events w]
  rcases ((a.load h.watched c folder).run (s, events)).run w with ⟨⟨⟨e | app, logs⟩, s, events⟩, w⟩
  · rfl
  · dsimp only
    rw [app.watched_start h s events]
    rfl

/-- Watching a host changes nothing. -/
theorem watched_execute (s : σ) (events : List HostEvent) (w : World) :
    let out := ((a.execute h.watched c).run (s, events)).run w
    ((a.execute h c).run s).run w = ((out.1.1, out.1.2.1), out.2) := by
  rw [run_execute, run_execute]
  rcases a.runFolder.run w with ⟨f | folder, w⟩
  · rfl
  · dsimp only
    rw [a.watched_launch h c folder s events w]
    rcases ((a.launch h.watched c folder).run (s, events)).run w with
      ⟨⟨⟨e | app, logs⟩, s, events⟩, w⟩ <;> rfl

/-! ## Sessions -/

theorem run_session (calls : List AppCall) (s : σ) (w : World) :
    ((a.session h c calls).run s).run w =
      let ((l, s), w) := ((a.execute h c).run s).run w
      match l.result with
      | .error _ => (((l, []), s), w)
      | .ok app =>
        let (replies, s) := (app.calls h calls).run s
        (((l, replies), s), w) := by
  rw [session, run_bind_inWorld]
  rcases ((a.execute h c).run s).run w with ⟨⟨⟨e | app, logs⟩, s⟩, w⟩ <;> rfl

theorem watched_session (calls : List AppCall) (s : σ) (events : List HostEvent) (w : World) :
    let out := ((a.session h.watched c calls).run (s, events)).run w
    ((a.session h c calls).run s).run w = ((out.1.1, out.1.2.1), out.2) := by
  rw [run_session, run_session, a.watched_execute h c s events w]
  rcases ((a.execute h.watched c).run (s, events)).run w with
    ⟨⟨⟨e | app, logs⟩, s, events⟩, w⟩
  · rfl
  · dsimp only
    rw [app.watched_calls h calls s events]
    rfl

end Assembled

/-! ## What a call leaves behind -/

namespace Locator

variable {t u v : Locator}

/-- A locator that has its mappings does not change. -/
theorem locateFrames_of_decoded {m : Option Mappings} (h : t.decoded = some m)
    (raws : List StackFrame) : (t.locateFrames raws).2.1 = t := by
  induction raws with
  | nil => rfl
  | cons raw raws ih =>
    have hframe : (t.frame raw).2.1 = t := by
      unfold frame
      split
      · simp only [h]
      · rfl
    show ((t.frame raw).2.1.locateFrames raws).2.1 = t
    rw [hframe, ih]

/-- What is logged about a frame is what there is to say about the mappings. -/
theorem Follows.logs_frame (h : u.Follows t) (raw : StackFrame) :
    ∀ l ∈ (u.frame raw).2.2, l ∈ t.readMappings.2 := by
  unfold Locator.frame
  split
  · split
    · simp
    · rw [h.readMappings]
      exact fun l hl => hl
  · simp

/-- Frames are located the same way whether or not the mappings were needed before. -/
theorem Follows.locateFrames_eq (h : u.Follows t) (raws : List StackFrame) :
    (u.locateFrames raws).1 = raws.map (t.frameWith t.readMappings.1) ∧
      ∀ l ∈ (u.locateFrames raws).2.2, l ∈ t.readMappings.2 := by
  constructor
  · rw [fst_locateFrames]
    exact List.map_congr_left fun raw _ => h.frameWith_mappings raw
  · induction raws generalizing u with
    | nil => exact fun l hl => absurd hl List.not_mem_nil
    | cons raw raws ih =>
      intro l hl
      rcases List.mem_append.mp hl with hl | hl
      · exact h.logs_frame raw l hl
      · exact ih (h.frame raw).2 l hl

/-- The frames of a failure are those of its stack trace. -/
theorem failure_eq (t : Locator) (f : Thrown) :
    t.failure f =
      (⟨⟨(StackTrace.parse f.text).message, (t.locateFrames (StackTrace.parse f.text).frames).1⟩,
        f.text⟩, (t.locateFrames (StackTrace.parse f.text).frames).2) := by
  rw [failure, locate_eq]

/-- A failure is told the same way by locators that differ in what they remember. -/
theorem Follows.failure (hu : u.Follows t) (hv : v.Follows t) (f : Thrown) :
    (u.failure f).1 = (v.failure f).1 ∧ (u.failure f).2.1.Follows t ∧
      ∀ l ∈ (u.failure f).2.2, l ∈ t.readMappings.2 := by
  rw [failure_eq, failure_eq]
  generalize StackTrace.parse f.text = trace
  obtain ⟨hframes, hlogs⟩ := hu.locateFrames_eq trace.frames
  obtain ⟨hframes', -⟩ := hv.locateFrames_eq trace.frames
  refine ⟨?_, hu.locateFrames trace.frames, hlogs⟩
  simp only [hframes, hframes']

end Locator

namespace RunningApp

variable {t : Locator} {a b : RunningApp}

/-- Apps that differ only in what they remember of a source map. -/
structure Alike (t : Locator) (a b : RunningApp) : Prop where
  left : a.locator.Follows t
  right : b.locator.Follows t
  same : b = { a with locator := b.locator }

/-- Replies that differ only in what the apps remember, and in what is logged about the source
map. -/
structure ReplyAlike {α : Type} (t : Locator) (r s : Reply α) : Prop where
  result : r.result = s.result
  app : Alike t r.app s.app
  logs : r.logs.filter (· ∉ t.readMappings.2) = s.logs.filter (· ∉ t.readMappings.2)

theorem ReplyAlike.map {α β : Type} {r s : Reply α} (h : ReplyAlike t r s) (f : α → β) :
    ReplyAlike t ⟨f r.result, r.app, r.logs⟩ ⟨f s.result, s.app, s.logs⟩ :=
  ⟨congrArg f h.result, h.app, h.logs⟩

theorem Alike.told (h : Alike t a b) :
    Alike t { a with readyAsked := true } { b with readyAsked := true } := by
  obtain ⟨hleft, hright, hsame⟩ := h
  refine ⟨hleft, hright, ?_⟩
  rw [hsame]

theorem filter_eq_nil {logs warnings : List String} (h : ∀ l ∈ logs, l ∈ warnings) :
    logs.filter (· ∉ warnings) = [] := by
  simpa [List.filter_eq_nil_iff] using h

/-- A failure is told the same way by apps that differ in what they remember. -/
theorem Alike.failure (h : Alike t a b) (f : Thrown) : ReplyAlike t (a.failure f) (b.failure f) := by
  have ha := h.left.failure h.right f
  have hb := h.right.failure h.left f
  rw [failure_eq, failure_eq]
  generalize a.locator.failure f = x at ha hb ⊢
  generalize b.locator.failure f = y at ha hb ⊢
  refine ⟨ha.1, ⟨ha.2.1, hb.2.1, ?_⟩, ?_⟩
  · rw [h.same]
  · rw [filter_eq_nil ha.2.2, filter_eq_nil hb.2.2]

theorem Alike.settle (h : Alike t a b) (wrap : LocatedFailure → RunError)
    (answer : Except HostFault Unit) :
    ReplyAlike t (a.settle wrap answer) (b.settle wrap answer) := by
  rcases answer with (f | f | f | f) | ⟨⟩
  case error.script =>
    have hfailure := h.failure f
    exact hfailure.map fun failure => Except.error (wrap failure)
  all_goals exact ⟨rfl, h, rfl⟩

theorem Alike.settleHandler (h : Alike t a b) (id : String) (answer : Except HostFault Unit) :
    ReplyAlike t (a.settleHandler id answer) (b.settleHandler id answer) := by
  rcases answer with (f | f | f | f) | ⟨⟩
  case error.script =>
    have hfailure := h.failure f
    simp only [RunningApp.settleHandler]
    generalize a.failure f = x at hfailure ⊢
    generalize b.failure f = y at hfailure ⊢
    obtain ⟨hresult, happ, hlogs⟩ := hfailure
    have hlocation : y.app.locator.location? id = x.app.locator.location? id := by
      rw [happ.left.2, happ.right.2]
      rfl
    refine ⟨?_, happ, ?_⟩
    · simp only [hresult, hlocation]
    · simp only [List.filter_append, hlogs, hresult]
  all_goals
    simp only [RunningApp.settleHandler]
    exact ⟨rfl, h, rfl⟩

theorem Alike.asked? (h : Alike t a b) (c : AppCall) : a.asked? c = b.asked? c := by
  rw [h.same]
  cases c <;> rfl

/-- A call of apps that differ in what they remember is made the same way. -/
theorem Alike.call (h : Alike t a b) (host : Host σ) (c : AppCall) (s : σ) :
    ReplyAlike t ((a.call host c).run s).1 ((b.call host c).run s).1 ∧
      ((a.call host c).run s).2 = ((b.call host c).run s).2 := by
  rw [run_call, run_call, ← h.asked? c]
  cases a.asked? c with
  | none =>
    cases c with
    | ready => exact ⟨⟨rfl, h.told, rfl⟩, rfl⟩
    | handle id event => exact ⟨⟨rfl, h, rfl⟩, rfl⟩
  | some request =>
    cases c with
    | ready =>
      have hsettle := h.told.settle .ready ((host.invoke request.1 request.2).run s).1
      exact ⟨hsettle.map fun r => CallResult.ready (r.map fun _ => true), rfl⟩
    | handle id event =>
      have hsettle := h.settleHandler id ((host.invoke request.1 request.2).run s).1
      exact ⟨hsettle.map CallResult.handle, rfl⟩

/-- What calls give, without what is logged about a source map. -/
def outcomes (t : Locator) (replies : List (Reply CallResult)) :
    List (CallResult × List String) :=
  replies.map fun r => (r.result, r.logs.filter (· ∉ t.readMappings.2))

theorem Alike.calls (h : Alike t a b) (host : Host σ) (calls : List AppCall) (s : σ) :
    outcomes t ((a.calls host calls).run s).1 = outcomes t ((b.calls host calls).run s).1 ∧
      ((a.calls host calls).run s).2 = ((b.calls host calls).run s).2 := by
  induction calls generalizing a b s with
  | nil => exact ⟨rfl, rfl⟩
  | cons c cs ih =>
    obtain ⟨⟨hresult, happ, hlogs⟩, hstate⟩ := h.call host c s
    obtain ⟨hrest, hend⟩ := ih happ ((a.call host c).run s).2
    rw [run_calls_cons, run_calls_cons, ← hstate]
    refine ⟨?_, hend⟩
    simp only [outcomes, List.map_cons] at hrest ⊢
    rw [hresult, hlogs, hrest]

/-- The app behind a failure is the app before it, or it has decoded its mappings. -/
theorem app_failure (a : RunningApp) (f : Thrown) :
    (a.failure f).app = a ∨ Alike a.locator (a.failure f).app a := by
  cases hdecoded : a.locator.decoded with
  | some m =>
    left
    rw [failure_eq, Locator.failure_eq]
    simp only [Locator.locateFrames_of_decoded hdecoded]
  | none =>
    right
    have hfollows := Locator.Follows.refl hdecoded
    have hfailure := hfollows.failure hfollows f
    rw [failure_eq]
    generalize a.locator.failure f = x at hfailure ⊢
    exact ⟨hfailure.2.1, hfollows, rfl⟩

/-- Whatever a host answers to a handler, later calls are made as if the handler were done. Only a
warning about the source map is not raised again. -/
theorem calls_settleHandler (a : RunningApp) (id : String) (answer : Except HostFault Unit)
    (host : Host σ) (later : List AppCall) (s : σ) :
    let behind := fun x => ((a.settleHandler id x).app.calls host later).run s
    outcomes a.locator (behind answer).1 = outcomes a.locator (behind (.ok ())).1 ∧
      (behind answer).2 = (behind (.ok ())).2 := by
  rcases answer with (f | f | f | f) | ⟨⟩
  case error.script =>
    simp only [settleHandler]
    rcases a.app_failure f with heq | halike
    · rw [heq]
      exact ⟨rfl, rfl⟩
    · exact halike.calls host later s
  all_goals simp only [settleHandler, and_self]

/-- Later calls are made as if the handler that was called before them were done. -/
theorem calls_behind_handler (a : RunningApp) (host : Host σ) (id : String) (event : Option Value)
    (later : List AppCall) (s : σ) :
    let behind := (a.call host (.handle id event)).run s
    let done := (a.settleHandler id (.ok ())).app
    outcomes a.locator ((behind.1.app.calls host later).run behind.2).1 =
        outcomes a.locator ((done.calls host later).run behind.2).1 ∧
      ((behind.1.app.calls host later).run behind.2).2 =
        ((done.calls host later).run behind.2).2 := by
  rw [run_call]
  cases a.asked? (.handle id event) with
  | none => exact ⟨rfl, rfl⟩
  | some request =>
    exact a.calls_settleHandler id ((host.invoke request.1 request.2).run s).1 host later _

end RunningApp

/-! ## All of it -/

/-- What a host is called for: members with their events. -/
def requestsOf (events : List HostEvent) : List (String × Option Value) :=
  events.filterMap (·.request?)

theorem requestsOf_eq {events : List HostEvent} {requests : List (String × Option Value)}
    (h : events.map (·.request?) = requests.map some) : requestsOf events = requests := by
  have hmap : requestsOf events = (events.map (·.request?)).filterMap id := by
    rw [List.filterMap_map]
    rfl
  rw [hmap, h, List.filterMap_map]
  exact List.filterMap_some

theorem Registry.requestsOf_started (r : Registry) {answer : Except HostFault (Option Registry)}
    {later : List HostEvent} {requests : List (String × Option Value)}
    (h : requestsOf later = requests) :
    requestsOf (.loaded answer :: r.startEvents ++ later) =
      (if r.init then [("init", none)] else []) ++ requests := by
  rw [← h]
  unfold startEvents
  split <;> rfl

namespace Assembled

variable (a : Assembled) (h : Host σ) (c : Context) (calls : List AppCall) (s : σ) (w : World)

/-- A session with a host that is watched from the start. -/
def watchedSession : ((Launch × List (Reply CallResult)) × σ × List HostEvent) × World :=
  ((a.session h.watched c calls).run (s, [])).run w

/-- What the host is asked in a session. -/
def sessionEvents : List HostEvent := (a.watchedSession h c calls s w).1.2.2

/-- The app that runs in a session, or why none does. -/
def sessionApp : Except RunError RunningApp := (a.watchedSession h c calls s w).1.1.1.result

/-- An app that runs was started, and its calls ask for what the registry has them ask for. Without
an app that runs there are no calls. -/
theorem sessionEvents_eq :
    ∃ first later, a.sessionEvents h c calls s w = first ++ later ∧
      Started (a.sessionApp h c calls s w) first ∧
      later.map (·.request?) =
        match a.sessionApp h c calls s w with
        | .ok app => (app.registry.requests [] calls).map some
        | .error _ => [] := by
  have hstarted := a.started_execute h c s w
  unfold sessionEvents sessionApp watchedSession
  rw [run_session]
  dsimp only at hstarted ⊢
  rcases hrun : ((a.execute h.watched c).run (s, [])).run w with ⟨⟨⟨e | app, logs⟩, s', events⟩, w'⟩
  · rw [hrun] at hstarted
    exact ⟨events, [], (List.append_nil events).symm, hstarted, rfl⟩
  · rw [hrun] at hstarted
    have htold : app.readyAsked = ([] : List AppCall).any AppCall.isReady := by
      cases hstarted with
      | running hready => exact hready
    obtain ⟨later, hlater, hrequests⟩ := app.events_calls h htold calls s' events
    exact ⟨events, later, hlater, hstarted, hrequests⟩

/-- How a host is asked in a session. -/
structure Disciplined : Prop where
  /-- That the host is watched changes nothing. -/
  watched : ((a.session h c calls).run s).run w =
    (((a.watchedSession h c calls s w).1.1, (a.watchedSession h c calls s w).1.2.1),
      (a.watchedSession h c calls s w).2)
  /-- Without an app that runs the host was asked for no more than to load the payload and to do
  `init`, and one of these failed. -/
  stopped (e : RunError) (he : a.sessionApp h c calls s w = .error e) :
    Started (.error e) (a.sessionEvents h c calls s w)
  /-- An app runs with the registry that its payload published, and behind `init`, if it is published
  and was done. Then the host is asked for what the calls ask for and for nothing else. -/
  asked (app : RunningApp) (happ : a.sessionApp h c calls s w = .ok app) : ∃ later,
    a.sessionEvents h c calls s w =
        .loaded (.ok (some app.registry)) :: app.registry.startEvents ++ later ∧
      later.map (·.request?) = (app.registry.requests [] calls).map some
  /-- `init` is done once if it is published, and `ready` once at most. -/
  once (app : RunningApp) (happ : a.sessionApp h c calls s w = .ok app)
      (hinit : "init" ∉ app.registry.handlers) (hready : "ready" ∉ app.registry.handlers) :
    ((requestsOf (a.sessionEvents h c calls s w)).map (·.1)).count "init" =
        (if app.registry.init then 1 else 0) ∧
      ((requestsOf (a.sessionEvents h c calls s w)).map (·.1)).count "ready" ≤ 1
  /-- Whatever the host answers to a handler, later calls are made as if it had answered that the
  handler is done. -/
  steady (app : RunningApp) (id : String) (event : Option Value) (later : List AppCall) (s : σ) :
    let behind := (app.call h (.handle id event)).run s
    let done := (app.settleHandler id (.ok ())).app
    RunningApp.outcomes app.locator ((behind.1.app.calls h later).run behind.2).1 =
        RunningApp.outcomes app.locator ((done.calls h later).run behind.2).1 ∧
      ((behind.1.app.calls h later).run behind.2).2 = ((done.calls h later).run behind.2).2

theorem session_disciplined : a.Disciplined h c calls s w where
  watched := a.watched_session h c calls s [] w
  stopped e he := by
    obtain ⟨first, later, hevents, hstarted, hlater⟩ := a.sessionEvents_eq h c calls s w
    rw [he] at hstarted hlater
    rw [hevents, List.map_eq_nil_iff.mp hlater, List.append_nil]
    exact hstarted
  asked app happ := by
    obtain ⟨first, later, hevents, hstarted, hlater⟩ := a.sessionEvents_eq h c calls s w
    rw [happ] at hstarted hlater
    cases hstarted with
    | running _ => exact ⟨later, hevents, hlater⟩
  once app happ hinit hready := by
    obtain ⟨first, later, hevents, hstarted, hlater⟩ := a.sessionEvents_eq h c calls s w
    rw [happ] at hstarted hlater
    cases hstarted with
    | running _ =>
      have hnone : "init" ∉ (app.registry.requests [] calls).map (·.1) := by
        intro hmem
        obtain ⟨x, hx, heq⟩ := List.mem_map.mp hmem
        rcases Registry.of_mem_requests hx with ⟨rfl, -⟩ | ⟨hid, -⟩
        · exact absurd heq (by decide)
        · exact hinit (heq ▸ hid)
      have hready := Registry.count_ready_requests hready [] calls
      rw [hevents, app.registry.requestsOf_started (requestsOf_eq hlater), List.map_append,
        List.count_append, List.count_append, List.count_eq_zero.mpr hnone]
      split <;> simpa using hready
  steady app id event later s := app.calls_behind_handler h id event later s

end Assembled

/-- An app that is told twice that it is shown, and is called for a handler it does not have. -/
example (c : Context) (now : Int) (environment : Environment) :
    let app : Assembled :=
      ⟨⟨"", "", .empty, none, [], "", ""⟩, some [], ⟨none, false, [], [], none, none⟩⟩
    let host : Host Unit :=
      ⟨[], fun _ _ _ => pure (.ok (some ⟨true, true, ["go0"]⟩)), fun _ _ => pure (.ok ()),
        pure (.ok ())⟩
    requestsOf (app.sessionEvents host c
        [.handle "go0" none, .ready, .handle "go1" none, .ready, .handle "go0" (some .null)] ()
        ⟨.empty, now, environment, 1, 0⟩) =
      [("init", none), ("go0", none), ("ready", none), ("go0", some .null)] := by
  rfl

end AppBundle
