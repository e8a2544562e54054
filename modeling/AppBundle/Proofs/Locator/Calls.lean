import AppBundle.Proofs.Locator

/-!
# Calls on one locator

A locator is asked again and again: to locate a stack trace or a single frame, to say where a handler
is, and to take another source map. All it remembers from call to call are the mappings of its source
map, once a frame needed them. What it is after calls is known from the last source map and from the
frames since (`Locator.after`), so every answer is that of a locator made anew with that source map.
-/

namespace AppBundle

/-- What is logged about a source map whose mappings cannot be read. -/
def mapWarnings : Option SourceMap → List String
  | none => []
  | some map =>
    match map.toMappings with
    | .ok _ => []
    | .error fault => ["sourcemap could not be decoded: " ++ fault.message]

namespace Locator

theorem logs_readMappings (t : Locator) : t.readMappings.2 = mapWarnings t.sourceMap := by
  unfold readMappings mapWarnings
  cases t.sourceMap with
  | none => rfl
  | some map =>
    simp only
    cases map.toMappings <;> rfl

/-! ## Calls -/

/-- What a locator may be asked. -/
inductive Call where
  /-- To take a source map in place of the present one. -/
  | install (map : Option SourceMap)
  /-- To locate a stack trace. -/
  | trace (raw : String)
  /-- To locate a frame. -/
  | frame (raw : StackFrame)
  /-- To say where a handler or script is. -/
  | place (owner : String)

/-- What it answers. -/
inductive Answer where
  /-- Nothing. -/
  | done
  /-- A stack trace. -/
  | trace (located : LocatedTrace)
  /-- A frame. -/
  | frame (located : LocatedFrame)
  /-- A place in words, if there is one. -/
  | place (words : Option String)

/-- A call answered, with the locator behind it and what is logged. -/
def answer (t : Locator) : Call → Answer × Locator × List String
  | .install map => (.done, t.withMap map, [])
  | .trace raw =>
    let (located, t, logs) := t.locate raw
    (.trace located, t, logs)
  | .frame raw =>
    let (located, t, logs) := t.frame raw
    (.frame located, t, logs)
  | .place owner => (.place (t.location? owner), t, [])

/-- The locator behind calls. -/
def behind (t : Locator) : List Call → Locator
  | [] => t
  | c :: cs => (t.answer c).2.1.behind cs

/-- What is logged over calls. -/
def logged (t : Locator) : List Call → List String
  | [] => []
  | c :: cs => (t.answer c).2.2 ++ (t.answer c).2.1.logged cs

/-- The frames that a call is about. -/
def Call.frames : Call → List StackFrame
  | .trace raw => (StackTrace.parse raw).frames
  | .frame raw => [raw]
  | _ => []

/-- The source map that is in place behind calls. -/
def installed (map : Option SourceMap) : List Call → Option SourceMap
  | [] => map
  | .install map :: cs => installed map cs
  | _ :: cs => installed map cs

/-- The frames since the last source map was taken. -/
def framesSince (seen : List StackFrame) : List Call → List StackFrame
  | [] => seen
  | .install _ :: cs => framesSince [] cs
  | c :: cs => framesSince (seen ++ c.frames) cs

/-! ## What a locator is after calls -/

/-- A locator made anew with a source map. -/
def anew (t : Locator) (map : Option SourceMap) : Locator :=
  ⟨t.sourceId, t.runFile, t.content, t.lineTable, t.origins, map, none⟩

/-- A locator that took a source map and located frames since. -/
def after (t : Locator) (map : Option SourceMap) (seen : List StackFrame) : Locator :=
  { t.anew map with
    decoded := if seen.any t.needsMappings then some (t.anew map).readMappings.1 else none }

variable (t : Locator) (map : Option SourceMap) (seen : List StackFrame)

theorem sameBut_after : (t.after map seen).SameBut (t.anew map) := by
  refine ⟨rfl, ?_⟩
  unfold mappings after
  split <;> rfl

/-- A frame behind others: it is located as by a locator made anew, and the warning is raised if it is
the first to need the mappings. -/
theorem frame_after (raw : StackFrame) :
    (t.after map seen).frame raw =
      (((t.anew map).frame raw).1, t.after map (seen ++ [raw]),
        if t.needsMappings raw && !seen.any t.needsMappings then mapWarnings map else []) := by
  have hlocated : ((t.after map seen).frame raw).1 = ((t.anew map).frame raw).1 := by
    rw [fst_frame, fst_frame, (t.sameBut_after map seen).frameWith, (t.sameBut_after map seen).2]
  refine Prod.ext hlocated ?_
  have hneeds : (t.after map seen).needsMappings raw = t.needsMappings raw := rfl
  unfold frame
  rw [hneeds]
  by_cases hraw : t.needsMappings raw = true
  · rw [if_pos hraw]
    by_cases hseen : seen.any t.needsMappings = true
    · have hdecoded : (t.after map seen).decoded = some (t.anew map).readMappings.1 := if_pos hseen
      simp only [hdecoded, hraw, hseen]
      simp [after, hseen]
    · have hdecoded : (t.after map seen).decoded = none := if_neg hseen
      have hread : (t.after map seen).readMappings = (t.anew map).readMappings := rfl
      have hlogs : (t.anew map).readMappings.2 = mapWarnings map := (t.anew map).logs_readMappings
      simp only [hdecoded, hread, hlogs, hraw]
      simp [after, hseen, hraw]
  · rw [if_neg hraw]
    simp [after, hraw]

/-- Frames behind others. -/
theorem locateFrames_after (raws : List StackFrame) :
    (t.after map seen).locateFrames raws =
      (((t.anew map).locateFrames raws).1, t.after map (seen ++ raws),
        if raws.any t.needsMappings && !seen.any t.needsMappings then mapWarnings map else []) := by
  have hlocated : ((t.after map seen).locateFrames raws).1 =
      ((t.anew map).locateFrames raws).1 := by
    rw [(t.sameBut_after map seen).fst_locateFrames, fst_locateFrames]
  refine Prod.ext hlocated ?_
  clear hlocated
  induction raws generalizing seen with
  | nil => simp [locateFrames]
  | cons raw raws ih =>
    have hrest := ih (seen ++ [raw])
    simp only [locateFrames, frame_after, hrest]
    by_cases hraw : t.needsMappings raw = true <;>
      by_cases hseen : seen.any t.needsMappings = true <;>
        simp [hraw, hseen]

/-- A call behind others: the answer is that of a locator made anew, and the warning is raised if a
frame of the call is the first to need the mappings. -/
theorem answer_after (c : Call) :
    (t.after map seen).answer c =
      (((t.anew map).answer c).1, t.after (installed map [c]) (framesSince seen [c]),
        if c.frames.any t.needsMappings && !seen.any t.needsMappings then mapWarnings map
        else []) := by
  cases c with
  | install => rfl
  | trace raw =>
    have hframes := t.locateFrames_after map seen (StackTrace.parse raw).frames
    simp only [answer, locate, hframes, Call.frames]
    rfl
  | frame raw =>
    simp only [answer, t.frame_after map seen raw, Call.frames, List.any_cons, List.any_nil,
      Bool.or_false]
    rfl
  | place owner =>
    have hseen : framesSince seen [.place owner] = seen := List.append_nil seen
    rw [hseen]
    rfl

/-- What a locator is behind calls depends on the last source map and on the frames since. -/
theorem behind_after (cs : List Call) :
    (t.after map seen).behind cs = t.after (installed map cs) (framesSince seen cs) := by
  induction cs generalizing map seen with
  | nil => rfl
  | cons c cs ih =>
    rw [behind, answer_after, ih]
    cases c <;> rfl

/-- Over calls that leave the source map in place, the warning is raised once or not at all. -/
theorem logged_after {cs : List Call} (hcs : ∀ c ∈ cs, ∀ map, c ≠ .install map) :
    (t.after map seen).logged cs =
      if cs.any (·.frames.any t.needsMappings) && !seen.any t.needsMappings then mapWarnings map
      else [] := by
  induction cs generalizing seen with
  | nil => rfl
  | cons c cs ih =>
    have hc : installed map [c] = map ∧ framesSince seen [c] = seen ++ c.frames := by
      cases c with
      | install m => exact absurd rfl (hcs _ List.mem_cons_self m)
      | place | trace | frame => exact ⟨rfl, rfl⟩
    have hrest := ih (seen ++ c.frames) fun d hd => hcs d (List.mem_cons_of_mem c hd)
    rw [logged, answer_after, hc.1, hc.2, hrest]
    by_cases hframes : c.frames.any t.needsMappings = true <;>
      by_cases hseen : seen.any t.needsMappings = true <;>
        simp [hframes, hseen]

end Locator

namespace Locator

variable {t : Locator}

/-- What a locator remembers is not to be seen. Behind any calls it answers as one that is made anew
with the last source map. The warning that a source map cannot be read is raised at the first frame
behind it that needs the mappings, and at no other: so no more than once until another source map
takes its place. -/
theorem answers_as_anew (ht : t.decoded = none) (earlier : List Call) :
    (∀ c, ((t.behind earlier).answer c).1 =
      ((t.anew (installed t.sourceMap earlier)).answer c).1) ∧
    (∀ c, ((t.behind earlier).answer c).2.2 =
      ((t.behind earlier).locateFrames c.frames).2.2) ∧
    (∀ front raw, (((t.behind earlier).locateFrames front).2.1.frame raw).2.2 =
      if t.needsMappings raw && !(framesSince [] earlier ++ front).any t.needsMappings then
        mapWarnings (installed t.sourceMap earlier)
      else []) ∧
    ∀ map cs, (∀ c ∈ cs, ∀ other, c ≠ .install other) →
      (((t.behind earlier).answer (.install map)).2.1).logged cs =
        if cs.any (·.frames.any t.needsMappings) then mapWarnings map else [] := by
  have hstart : t = t.after t.sourceMap [] := by
    obtain ⟨sourceId, runFile, content, lineTable, origins, map, decoded⟩ := t
    obtain rfl : decoded = none := ht
    rfl
  have hbehind : t.behind earlier =
      t.after (installed t.sourceMap earlier) (framesSince [] earlier) := by
    conv_lhs => rw [hstart]
    exact t.behind_after t.sourceMap [] earlier
  rw [hbehind]
  refine ⟨fun c => ?_, fun c => ?_, fun front raw => ?_, fun map cs hcs => ?_⟩
  · rw [answer_after]
  · rw [answer_after, locateFrames_after]
  · rw [locateFrames_after, frame_after]
  · have hlogged := t.logged_after map [] hcs
    rw [answer_after]
    simpa [installed, framesSince] using hlogged

/-- A map of a version that is not known. -/
def oldMap : SourceMap := ⟨2, none, none, ["_inline_0.ts"], [], "AAIA", none⟩

/-- A map that takes the start of the bundle to line 7 of the module of a script. -/
def newMap : SourceMap := ⟨3, none, none, ["_inline_0.ts"], [], "AAMA", none⟩

/-- A locator with the first of these maps. -/
def oldLocator : Locator where
  sourceId := "app.melker"
  runFile := some AppBundle.runFile
  content := none
  lineTable := .empty
  origins := [⟨"_inline_0.ts", 10, 3⟩]
  sourceMap := some oldMap
  decoded := none

/-- A frame at the start of the bundle. -/
def startFrame : StackFrame := ⟨some "f", "file:///tmp/melker_bundle.js", 1, 1⟩

/-- The warning about the first map comes once, and the frame is located by the second when that is
in place. -/
theorem oldLocator_answers :
    oldLocator.decoded = none ∧
      (oldLocator.frame startFrame).2.2 =
        ["sourcemap could not be decoded: unsupported sourcemap version 2 (expected 3)"] ∧
      ((oldLocator.behind [.frame startFrame]).frame startFrame).2.2 = [] ∧
      (∃ f, ((oldLocator.behind [.frame startFrame, .install (some newMap)]).answer
        (.frame startFrame)).1 = .frame f ∧ f.line = 14) := by
  have hneeds : oldLocator.needsMappings startFrame = true := by decide +kernel
  have hdecoded : oldLocator.decoded = none := rfl
  refine ⟨hdecoded, ?_, ?_, ?_⟩
  · have hfirst := (answers_as_anew hdecoded []).2.2.1 [] startFrame
    have hwarning : mapWarnings (some oldMap) =
        ["sourcemap could not be decoded: unsupported sourcemap version 2 (expected 3)"] := by
      decide +kernel
    rw [hneeds] at hfirst
    exact hfirst.trans hwarning
  · have hsecond := (answers_as_anew hdecoded [.frame startFrame]).2.2.1 [] startFrame
    rw [hneeds] at hsecond
    refine hsecond.trans (if_neg ?_)
    simp [framesSince, Call.frames, hneeds]
  · have hanew := (answers_as_anew hdecoded [.frame startFrame, .install (some newMap)]).1
      (.frame startFrame)
    refine ⟨_, hanew, ?_⟩
    decide +kernel

end Locator

end AppBundle
