import AppBundle.Proofs.Locator

/-!
# Frames of handlers

A frame in the function of a handler has the name of the handler, and the table of the entry gives
its lines to that name. Whether the frame is told to be of a handler is read off the name alone: it
has to be numbered in one of the ways of `IsHandlerName`. The names of handlers that answer to
sign-in are not, so their frames pass for those of scripts.
-/

namespace AppBundle

open AppBundle.Text

/-! ## Names of handlers -/

/-- The part of the name behind its last point is a word for handlers with a number behind it. -/
def IsHandlerName (name : String) : Prop :=
  ∃ word ∈ ["__h", "__handler", "__handler_"], ∃ digits, digits ≠ [] ∧
    (∀ c ∈ digits, isDecimal c = true) ∧ lastPart name = word.toList ++ digits

variable {name : String} {cs : List Char}

theorem isNumbered_iff {beginning : String} :
    isNumbered beginning cs = true ↔ ∃ digits, digits ≠ [] ∧ (∀ c ∈ digits, isDecimal c = true) ∧
      cs = beginning.toList ++ digits := by
  unfold isNumbered
  cases hafter : after? beginning.toList cs with
  | none =>
    simp only [Bool.false_eq_true, false_iff]
    rintro ⟨digits, -, -, rfl⟩
    rw [after?_append] at hafter
    exact absurd hafter (Option.some_ne_none digits)
  | some digits =>
    have hcs := after?_eq_some_iff.mp hafter
    simp only [Bool.and_eq_true, Bool.not_eq_true', List.isEmpty_eq_false_iff, List.all_eq_true]
    constructor
    · exact fun h => ⟨digits, h.1, h.2, hcs⟩
    · rintro ⟨digits', hne, hall, hcs'⟩
      obtain rfl := List.append_cancel_left (hcs.symm.trans hcs')
      exact ⟨hne, hall⟩

/-- A name tells of a handler if it is one of the names of handlers. -/
theorem ofName?_eq_handler_iff :
    CodeKind.ofName? name = some .handler ↔ IsHandlerName name := by
  have hwords : IsHandlerName name ↔ (isNumbered "__h" (lastPart name)
      || isNumbered "__handler" (lastPart name)
      || isNumbered "__handler_" (lastPart name)) = true := by
    simp only [IsHandlerName, Bool.or_eq_true, isNumbered_iff, or_assoc]
    simp
  rw [hwords, CodeKind.ofName?]
  split
  · next h => simp [h]
  · next h =>
    simp only [h, Bool.false_eq_true, iff_false]
    split
    · simp
    · split <;> simp

/-- What answers to sign-in has no name of a handler, where its name has no point. -/
theorem Handler.not_isHandlerName_of_isSignIn {h : Handler} (hsign : h.isSignIn = true)
    (hpoint : '.' ∉ h.id.toList) : ¬ IsHandlerName h.id := by
  rintro ⟨word, hword, digits, -, -, hlast⟩
  obtain ⟨rest, hrest⟩ := Option.isSome_iff_exists.mp hsign
  rw [lastPart, split_of_notMem hpoint, List.getLast?_singleton, Option.getD_some,
    after?_eq_some_iff.mp hrest] at hlast
  -- the third character tells them apart
  have hthird := congrArg (fun cs => cs[2]?) hlast
  simp only [List.mem_cons, List.not_mem_nil, or_false] at hword
  rcases hword with rfl | rfl | rfl <;> simp [signInMark] at hthird

/-- The name that is shown for a function that has one. -/
theorem shownName_some (name : String) (kind : CodeKind) :
    (IsHandlerName name → shownName (some name) kind = "event handler") ∧
      (¬ IsHandlerName name →
        shownName (some name) kind ∈ ["async init", "async ready", name]) := by
  rw [← ofName?_eq_handler_iff]
  unfold shownName
  constructor
  · intro h
    simp only [h]
  · intro h
    cases hkind : CodeKind.ofName? name with
    | none => simp [hkind]
    | some known =>
      cases known with
      | handler => exact absurd hkind h
      | _ => simp [hkind]

namespace App

variable {a : App} {h : Handler}

/-- The name of a frame that is resolved goes before what its place tells. -/
theorem frameWith_of_function {t : Locator} {ms : Option Mappings} {raw : StackFrame}
    {place : AppPlace} {name : String} (h : t.resolve? ms raw = some place)
    (hname : raw.function = some name) :
    (t.frameWith ms raw).kind = (CodeKind.ofName? name <|> place.kind).getD .script ∧
      (t.frameWith ms raw).function =
        shownName (some name) ((CodeKind.ofName? name <|> place.kind).getD .script) := by
  unfold Locator.frameWith
  rw [h, hname]
  exact ⟨rfl, rfl⟩

/-- A frame in the function of a handler that reaches a line of the body is located at that line of
the app file. It is told to be of a handler if its name is one of those of handlers, and shown as
such; other names are taken for those of scripts or of what runs at a fixed moment, and the names of
what answers to sign-in are among them. The handler is said to be defined where its code begins. -/
theorem LabelsOnOneLine.handlerFrame (ha : a.LabelsOnOneLine)
    (hnodup : (a.scripts.map (·.id) ++ a.handlers.map (·.id)).Nodup) (hh : h ∈ a.handlers) :
    (∀ n j, a.entryLine? n = some (.body h j) →
        ∃ text,
          (pieces (trimRight (· = '\n') (unifyFeeds h.code.toList)))[j]? = some text ∧
          (pieces a.generated.entry.toList)[n - 1]? = some text) ∧
      (∀ (template code : String) (map : Option SourceMap) (earlier : List StackFrame)
        (raw : StackFrame) (n j : Nat), a.entryLine? n = some (.body h j) →
        raw.Reaches map entryFile n → raw.function = some h.id →
        let located :=
          (((a.bundleAround template code map).locator.locateFrames earlier).2.1.frame raw).1
        located.file = a.sourceId ∧ located.line = h.codeSpan.start.line + j ∧
          (located.kind = .handler ↔ IsHandlerName h.id) ∧
          (IsHandlerName h.id → located.function = "event handler") ∧
          (¬ IsHandlerName h.id →
            located.function ∈ ["async init", "async ready", h.id])) ∧
      (h.isSignIn = true → '.' ∉ h.id.toList → ¬ IsHandlerName h.id) ∧
      ∀ template code map, (a.bundleAround template code map).locator.location? h.id =
        some ("defined at " ++ a.sourceId ++ ":" ++ decimal h.codeSpan.start.line) := by
  refine ⟨fun n j hl => ?_, ?_, Handler.not_isHandlerName_of_isSignIn, ?_⟩
  · obtain ⟨text, hcode, hentry, -⟩ := ha.body_of_entryLine? hl
    exact ⟨text, hcode, hentry⟩
  · intro template code map earlier raw n j hl hreach hname
    -- the locator answers as if it had not been asked before
    have hfollows : (a.bundleAround template code map).locator.Follows
        (a.bundleAround template code map).locator := Locator.Follows.refl rfl
    obtain ⟨hframe, -⟩ := (hfollows.locateFrames earlier).frame raw
    obtain ⟨place, hline, hkind, hresolve⟩ :=
      exists_place_of_reaches (fun path hpath => knows_body hl hpath template code map) hreach
    obtain ⟨hfile, hplace, -⟩ := frameWith_of_resolve? hresolve
    obtain ⟨hlocated, hfunction⟩ := frameWith_of_function hresolve hname
    obtain ⟨hshown, hother⟩ :=
      shownName_some h.id ((CodeKind.ofName? h.id <|> place.kind).getD .script)
    simp only [hframe]
    refine ⟨hfile, hplace.trans hline, ?_, hfunction ▸ hshown, hfunction ▸ hother⟩
    rw [hlocated, hkind, ← ofName?_eq_handler_iff]
    cases CodeKind.ofName? h.id <;> simp
  · intro template code map
    obtain ⟨n, -, howner⟩ := findOwner?_handler hnodup hh
    have htable : (a.bundleAround template code map).locator.lineTable =
      a.generated.lineTable := rfl
    rw [Locator.location?, htable, howner]
    rfl

end App

/-- An app with a handler for a button and one that answers to sign-in. -/
def signInApp : App where
  sourceId := "file:///apps/mail.melker"
  content := "<melker onLogin=\"open();\">\n<button onClick=\"send();\"/>\n"
  template := "<melker onLogin=\"open();\">\n<button onClick=\"send();\"/>\n"
  scripts := []
  handlers := [
    ⟨"__h0", "onClick", "send();", false, ["event"], ⟨⟨2, 8, 35⟩, ⟨2, 25, 52⟩⟩,
      ⟨⟨2, 17, 44⟩, ⟨2, 24, 51⟩⟩, ⟨"button", none, 2⟩⟩,
    ⟨"__auth_login", "onLogin", "open();", false, ["event"], ⟨⟨1, 8, 8⟩, ⟨1, 25, 25⟩⟩,
      ⟨⟨1, 17, 17⟩, ⟨1, 24, 24⟩⟩, ⟨"melker", none, 1⟩⟩]

theorem signInApp_labelsOnOneLine : signInApp.LabelsOnOneLine := by
  intro h hh
  have hone : h = signInApp.handlers[0] ∨ h = signInApp.handlers[1] := by
    simpa [signInApp] using hh
  rcases hone with rfl | rfl
  all_goals exact {
    id := .ofChars (by decide)
    params := fun p hp => List.mem_singleton.mp hp ▸ .ofChars (by decide)
    attr := .ofChars (by decide)
    tag := .ofChars (by decide)
    element := fun _ hid => absurd hid (by simp [signInApp]) }

/-- A frame in the function of the button is located at its attribute and shown as an event
handler. -/
theorem signInApp_buttonFrame :
    let raw : StackFrame := ⟨some "__h0", "file:///tmp/run/_melker_entry.ts", 8, 1⟩
    let located := ((signInApp.bundleAround "" "" none).locator.frame raw).1
    signInApp.LabelsOnOneLine ∧
      (signInApp.scripts.map (·.id) ++ signInApp.handlers.map (·.id)).Nodup ∧
      located.line = 2 ∧ located.kind = .handler ∧ located.function = "event handler" ∧
      (signInApp.bundleAround "" "" none).locator.location? "__h0" =
        some "defined at file:///apps/mail.melker:2" := by
  intro raw located
  have hnodup : (signInApp.scripts.map (·.id) ++ signInApp.handlers.map (·.id)).Nodup := by decide
  have hreach : raw.Reaches none entryFile 8 := by
    have hfile : fileName raw.file = entryFile := by decide +kernel
    exact hfile ▸ .direct
  have hname : IsHandlerName "__h0" :=
    ⟨"__h", by simp, ['0'], by simp, List.forall_mem_singleton.mpr rfl, by decide⟩
  obtain ⟨-, hframe, -, hlocation⟩ := signInApp_labelsOnOneLine.handlerFrame hnodup
    (h := signInApp.handlers[0]) List.mem_cons_self
  obtain ⟨-, hline, hkind, hfunction, -⟩ := hframe "" "" none [] raw 8 0 rfl hreach rfl
  exact ⟨signInApp_labelsOnOneLine, hnodup, hline, hkind.mpr hname, hfunction hname,
    (hlocation "" "" none).trans (by decide +kernel)⟩

/-- A frame in the function that answers to sign-in passes for one of a script: its name does not
tell of a handler, though the handler has a name of its own and the frame is in its body. -/
theorem signInApp_signInFrame :
    let raw : StackFrame := ⟨some "__auth_login", "file:///tmp/run/_melker_entry.ts", 12, 1⟩
    let located := ((signInApp.bundleAround "" "" none).locator.frame raw).1
    signInApp.LabelsOnOneLine ∧
      (signInApp.scripts.map (·.id) ++ signInApp.handlers.map (·.id)).Nodup ∧
      signInApp.entryLine? 12 = some (.body signInApp.handlers[1] 0) ∧
      raw.function = some signInApp.handlers[1].id ∧ raw.Reaches none entryFile 12 ∧
      located.kind = .script ∧ located.function = "__auth_login" := by
  intro raw located
  have hnodup : (signInApp.scripts.map (·.id) ++ signInApp.handlers.map (·.id)).Nodup := by decide
  have hreach : raw.Reaches none entryFile 12 := by
    have hfile : fileName raw.file = entryFile := by decide +kernel
    exact hfile ▸ .direct
  have hlocated : located.kind = .script ∧ located.function = "__auth_login" := by decide +kernel
  exact ⟨signInApp_labelsOnOneLine, hnodup, rfl, rfl, hreach, hlocated⟩

end AppBundle
