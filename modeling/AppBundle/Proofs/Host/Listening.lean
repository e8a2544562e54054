import AppBundle.Host.Program
import AppBundle.Proofs.Host.Printed
import AppBundle.Proofs.Json.Text
import AppBundle.Proofs.Text.Search
import Mathlib.Data.List.Forall2

/-!
# What a host listens to

The lines that a program prints are read in order, and each is read once. A call reads the lines of
the app and the calls of the context that stand in front of an answer, and the answer; lines of the
app are passed on, calls of the context are dropped, and what stands behind the answer is left for
the next call. So the lines that were read fall apart into those of the single calls, and what was
passed on are the lines of the app among them (`Peer.listens`).

A program that answers every command once is heard command by command, whatever it prints besides.
-/

namespace AppBundle

open AppBundle.Json

/-! ## Three kinds of lines -/

/-- A line of the app does not begin with the mark. -/
def IsAppLine (l : String) : Prop := ¬ messageMark <+: l.toList

instance (l : String) : Decidable (IsAppLine l) :=
  inferInstanceAs (Decidable (¬ messageMark <+: l.toList))

/-- A line that calls the context. -/
def IsContextLine (l : String) : Prop :=
  ∃ text member arguments, l.toList = messageMark ++ text ∧
    HostSignal.decoder.readText (String.ofList text) = .ok (.context member arguments)

/-- A line that stands in front of an answer. -/
def IsFiller (l : String) : Prop := IsAppLine l ∨ IsContextLine l

/-- What a line behind the mark answers if it does not call the context. -/
inductive Answers : String → Except Unheard HostSignal → Prop where
  /-- It is a message. -/
  | message {l : String} {text : List Char} {m : HostSignal} (hmark : l.toList = messageMark ++ text)
      (hread : HostSignal.decoder.readText (String.ofList text) = .ok m)
      (hcontext : ∀ member arguments, m ≠ .context member arguments) : Answers l (.ok m)
  /-- It is no message. -/
  | garbled {l : String} {text : List Char} {reason : Mismatch}
      (hmark : l.toList = messageMark ++ text)
      (hread : HostSignal.decoder.readText (String.ofList text) = .error reason) :
      Answers l (.error (.garbled (String.ofList text) reason))

theorem lineKind_app {l : String} (h : IsAppLine l) : lineKind (some l) = .app l := by
  cases hafter : Text.after? messageMark l.toList with
  | none => simp only [lineKind, hafter]
  | some text => exact absurd ⟨text, (Text.after?_eq_some_iff.mp hafter).symm⟩ h

theorem lineKind_context {l : String} (h : IsContextLine l) : lineKind (some l) = .dropped := by
  obtain ⟨text, member, arguments, hmark, hread⟩ := h
  simp only [lineKind, hmark, Text.after?_append, hread]

theorem Answers.lineKind {l : String} {r : Except Unheard HostSignal} (h : Answers l r) :
    lineKind (some l) = .answer r := by
  cases h with
  | message hmark hread hcontext =>
    simp only [AppBundle.lineKind, hmark, Text.after?_append, hread]
  | garbled hmark hread => simp only [AppBundle.lineKind, hmark, Text.after?_append, hread]

/-- Every line is of one of three kinds. -/
theorem isFiller_or_answers (l : String) : IsFiller l ∨ ∃ r, Answers l r := by
  by_cases hmark : messageMark <+: l.toList
  · obtain ⟨text, hmark⟩ := hmark
    cases hread : HostSignal.decoder.readText (String.ofList text) with
    | error reason => exact .inr ⟨_, .garbled hmark.symm hread⟩
    | ok m =>
      cases m with
      | context member arguments => exact .inl (.inr ⟨text, member, arguments, hmark.symm, hread⟩)
      | loaded | malformed | done | failed =>
        exact .inr ⟨_, .message hmark.symm hread fun _ _ => nofun⟩
  · exact .inl (.inl hmark)

theorem not_isAppLine_of_context {l : String} (h : IsContextLine l) : ¬ IsAppLine l := by
  obtain ⟨text, member, arguments, hmark, -⟩ := h
  exact fun happ => happ ⟨text, hmark.symm⟩

theorem Answers.not_isAppLine {l : String} {r : Except Unheard HostSignal} (h : Answers l r) :
    ¬ IsAppLine l := by
  cases h with
  | message hmark _ _ => exact fun happ => happ ⟨_, hmark.symm⟩
  | garbled hmark _ => exact fun happ => happ ⟨_, hmark.symm⟩

/-- The answer of a program that is done. -/
example : Answers ("\x01melker " ++ (Value.object [("type", .string "done")]).compact)
    (.ok .done) := by
  refine .message String.toList_append ?_ fun _ _ => nofun
  rw [String.ofList_toList, Decoder.readText, readText_print]
  rfl

/-! ## One call -/

/-- What a call reads, what it leaves, and its result. -/
inductive Reads (atEnd : Unheard) :
    List String → List String → Except Unheard HostSignal → Prop where
  /-- It reads up to an answer. -/
  | answered {before : List String} {l : String} {r : Except Unheard HostSignal} (rest : List String)
      (hbefore : ∀ f ∈ before, IsFiller f) (hl : Answers l r) : Reads atEnd (before ++ [l]) rest r
  /-- It finds no answer. -/
  | unanswered {before : List String} (hbefore : ∀ f ∈ before, IsFiller f) :
    Reads atEnd before [] (.error atEnd)

/-- The lines of the app among others. -/
def appLines (lines : List String) : List String := lines.filter (IsAppLine ·)

theorem appLines_append (front back : List String) :
    appLines (front ++ back) = appLines front ++ appLines back :=
  List.filter_append ..

theorem appLines_singleton {l : String} (h : IsAppLine l) : appLines [l] = [l] :=
  List.filter_cons_of_pos (decide_eq_true h)

theorem appLines_singleton_of_not {l : String} (h : ¬ IsAppLine l) : appLines [l] = [] :=
  List.filter_cons_of_neg (by simpa using h)

/-- Lines in front of an answer are read, and those of the app are passed on. -/
theorem hear_fillers {before : List String} (h : ∀ f ∈ before, IsFiller f) (atEnd : Unheard)
    (rest : List (Option String)) :
    hear atEnd (before.map some ++ rest) =
      ⟨appLines before ++ (hear atEnd rest).passed, (hear atEnd rest).message,
        (hear atEnd rest).rest⟩ := by
  induction before with
  | nil => rfl
  | cons f before ih =>
    rw [List.map_cons, List.cons_append, hear, ih fun g hg => h g (List.mem_cons_of_mem f hg),
      ← List.singleton_append, appLines_append]
    rcases h f List.mem_cons_self with happ | hcontext
    · rw [lineKind_app happ, appLines_singleton happ]
      rfl
    · rw [lineKind_context hcontext, appLines_singleton_of_not (not_isAppLine_of_context hcontext)]
      rfl

/-- Lines are fillers, or a first of them is an answer. -/
theorem exists_answer (lines : List String) :
    (∀ f ∈ lines, IsFiller f) ∨ ∃ before l after r,
      lines = before ++ l :: after ∧ (∀ f ∈ before, IsFiller f) ∧ Answers l r := by
  induction lines with
  | nil => exact .inl fun f hf => absurd hf List.not_mem_nil
  | cons l lines ih =>
    rcases isFiller_or_answers l with hl | ⟨r, hl⟩
    · have hcons : ∀ before : List String, (∀ f ∈ before, IsFiller f) →
          ∀ f ∈ l :: before, IsFiller f := by
        intro before hbefore f hf
        rcases List.mem_cons.mp hf with rfl | hf
        · exact hl
        · exact hbefore f hf
      rcases ih with hlines | ⟨before, m, after, r, rfl, hbefore, hm⟩
      · exact .inl (hcons lines hlines)
      · exact .inr ⟨l :: before, m, after, r, rfl, hcons before hbefore, hm⟩
    · exact .inr ⟨[], l, lines, r, rfl, fun f hf => absurd hf List.not_mem_nil, hl⟩

/-- A call reads lines of text as it should. -/
theorem hear_reads (atEnd : Unheard) (lines : List String) :
    ∃ taken rest, lines = taken ++ rest ∧
      Reads atEnd taken rest (hear atEnd (lines.map some)).message ∧
      (hear atEnd (lines.map some)).passed = appLines taken ∧
      (hear atEnd (lines.map some)).rest = rest.map some := by
  rcases exists_answer lines with hlines | ⟨before, l, after, r, rfl, hbefore, hl⟩
  · have hhear := hear_fillers hlines atEnd []
    rw [List.append_nil] at hhear
    refine ⟨lines, [], (List.append_nil lines).symm, ?_, ?_, ?_⟩ <;> rw [hhear]
    · exact .unanswered hlines
    · exact List.append_nil _
    · rfl
  · have hhear := hear_fillers hbefore atEnd ((l :: after).map some)
    rw [← List.map_append, List.map_cons, hear, hl.lineKind] at hhear
    refine ⟨before ++ [l], after, by simp, ?_, ?_, ?_⟩ <;> rw [hhear]
    · exact .answered after hbefore hl
    · rw [appLines_append, appLines_singleton_of_not hl.not_isAppLine]

/-! ## A conversation -/

namespace Dialogue

variable {σ : Type} (d : Dialogue σ) (s : σ) (e : Emission)

theorem lines_add :
    ({ d with peer := s }.add e).lines =
      d.lines ++ linesWritten (d.tail ++ e.bytes) e.status.isSome := by
  unfold add linesWritten
  cases e.status with
  | none => exact congrArg (d.lines ++ ·) (List.append_nil _).symm
  | some status =>
    dsimp only
    rw [List.append_assoc]
    cases (cutLines (d.tail ++ e.bytes)).2.isEmpty <;> rfl

theorem tail_add (h : e.status = none) :
    ({ d with peer := s }.add e).tail = (cutLines (d.tail ++ e.bytes)).2 := by
  unfold add
  rw [h]

theorem status_add (h : d.status = none) : ({ d with peer := s }.add e).status = e.status := by
  unfold add
  cases hstatus : e.status with
  | none => exact h
  | some status => rfl

theorem relayed_add : ({ d with peer := s }.add e).relayed = d.relayed := by
  unfold add
  cases e.status <;> rfl

theorem peer_add : ({ d with peer := s }.add e).peer = s := by
  unfold add
  cases e.status <;> rfl

theorem run_next :
    next.run d = ((hear d.atEnd d.lines).message,
      { d with
        lines := (hear d.atEnd d.lines).rest
        relayed := d.relayed ++ (hear d.atEnd d.lines).passed }) := rfl

theorem run_send (p : Peer σ) (c : Command) (h : d.status = none) :
    (send p c).run d =
      (.ok (),
        { d with peer := ((p.hear c.line).run d.peer).2 }.add ((p.hear c.line).run d.peer).1) := by
  show send p c d = _
  rw [send, h]
  rfl

end Dialogue

/-- The bytes of what a program does one after the other. -/
def bytesOf (es : List Emission) : List UInt8 := es.flatMap (·.bytes)

theorem bytesOf_concat (es : List Emission) (e : Emission) :
    bytesOf (es ++ [e]) = bytesOf es ++ e.bytes := by
  simp [bytesOf]

variable {σ : Type} {p : Peer σ} {es : List Emission} {rs : List (Except Unheard HostSignal)}
  {d : Dialogue σ}

/-- A conversation with a program: what the program did, and what the calls for a message gave. -/
inductive Peer.Talk (p : Peer σ) :
    List Emission → List (Except Unheard HostSignal) → Dialogue σ → Prop where
  /-- It is started. -/
  | start {disk : Disk} {arguments : List String} {peer s : σ} {e : Emission}
      (h : (p.start disk arguments).run peer = (.ok e, s)) :
      Peer.Talk p [e] [] ({ Dialogue.new peer with peer := s }.add e)
  /-- It hears a command. -/
  | send {es : List Emission} {rs : List (Except Unheard HostSignal)} {d : Dialogue σ}
      (h : Peer.Talk p es rs d) (hstatus : d.status = none) (c : Command) :
      Peer.Talk p (es ++ [((p.hear c.line).run d.peer).1]) rs ((Dialogue.send p c).run d).2
  /-- A message is read. -/
  | next {es : List Emission} {rs : List (Except Unheard HostSignal)} {d : Dialogue σ}
      (h : Peer.Talk p es rs d) :
      Peer.Talk p es (rs ++ [(Dialogue.next.run d).1]) (Dialogue.next.run d).2

/-- The lines that a call read, with its result. -/
def Turn (taken : List String) (r : Except Unheard HostSignal) : Prop :=
  ∃ atEnd rest, (atEnd = .silent ∨ ∃ status, atEnd = .ended status) ∧ Reads atEnd taken rest r

theorem Dialogue.atEnd_cases (d : Dialogue σ) :
    d.atEnd = .silent ∨ ∃ status, d.atEnd = .ended status := by
  unfold atEnd
  cases d.status with
  | none => exact .inl rfl
  | some status => exact .inr ⟨status, rfl⟩

/-- A call for a message, where lines of text stand. -/
theorem Dialogue.next_reads {lines : List String} (h : d.lines = lines.map some) :
    ∃ taken rest, lines = taken ++ rest ∧ Reads d.atEnd taken rest (next.run d).1 ∧
      (next.run d).2 = { d with
        lines := rest.map some
        relayed := d.relayed ++ appLines taken } := by
  obtain ⟨taken, rest, hlines, hreads, hpassed, hrest⟩ := hear_reads d.atEnd lines
  rw [run_next, h]
  exact ⟨taken, rest, hlines, hreads, by rw [hpassed, hrest]⟩

namespace Peer.Talk

/-- What is written of a line that has not ended stands behind the last line feed. -/
theorem tail_eq (h : p.Talk es rs d) (hstatus : d.status = none) :
    d.tail = (cutLines (bytesOf es)).2 := by
  induction h with
  | @start _ _ _ _ e hstart =>
    rw [Dialogue.status_add _ _ _ rfl] at hstatus
    rw [Dialogue.tail_add _ _ _ hstatus, bytesOf, List.flatMap_singleton]
    rfl
  | @send es rs d h hnone c ih =>
    rw [d.run_send p c hnone] at hstatus ⊢
    dsimp only at hstatus ⊢
    rw [d.status_add _ _ hnone] at hstatus
    rw [Dialogue.tail_add _ _ _ hstatus, bytesOf_concat, cutLines_append (bytesOf es), ← ih hnone]
  | next h ih => exact ih hstatus

/-- The lines that were read are those of the single calls. -/
theorem turns (h : p.Talk es rs d) {lines : List String}
    (hlines : linesWritten (bytesOf es) d.status.isSome = lines.map some) :
    ∃ turns rest, lines = turns.flatten ++ rest ∧ List.Forall₂ Turn turns rs ∧
      d.lines = rest.map some ∧ d.relayed = appLines turns.flatten := by
  induction h generalizing lines with
  | @start _ _ _ _ e hstart =>
    rw [Dialogue.status_add _ _ _ rfl, bytesOf, List.flatMap_singleton] at hlines
    refine ⟨[], lines, rfl, .nil, ?_, Dialogue.relayed_add _ _ _⟩
    rw [Dialogue.lines_add, ← hlines]
    rfl
  | @send es rs d h hnone c ih =>
    -- what was written of the last line is read with what the command adds to it
    have htail := h.tail_eq hnone
    rw [d.run_send p c hnone] at hlines ⊢
    dsimp only at hlines ⊢
    rw [d.status_add _ _ hnone, bytesOf_concat, linesWritten_append, ← htail] at hlines
    obtain ⟨earlier, new, rfl, hearlier, hnew⟩ := List.map_eq_append_iff.mp hlines.symm
    rw [hnone] at ih
    obtain ⟨turns, rest, rfl, hturns, hrest, hrelayed⟩ := ih hearlier.symm
    refine ⟨turns, rest ++ new, List.append_assoc .., hturns, ?_, ?_⟩
    · rw [Dialogue.lines_add, hrest, List.map_append, ← hnew]
    · exact (Dialogue.relayed_add _ _ _).trans hrelayed
  | @next es rs d h ih =>
    obtain ⟨turns, rest, rfl, hturns, hrest, hrelayed⟩ := ih hlines
    obtain ⟨taken, rest, rfl, hreads, hnext⟩ := Dialogue.next_reads hrest
    rw [hnext]
    refine ⟨turns ++ [taken], rest, ?_, ?_, rfl, ?_⟩
    · rw [List.flatten_concat, List.append_assoc]
    · exact List.rel_append hturns (.cons ⟨d.atEnd, rest, d.atEnd_cases, hreads⟩ .nil)
    · rw [List.flatten_concat, appLines_append, ← hrelayed]

end Peer.Talk

/-! ## Commands and answers -/

/-- What a program does when it hears calls. -/
def Peer.replies (p : Peer σ) : σ → List (String × Option Value) → List Emission
  | _, [] => []
  | s, (member, event) :: calls =>
    let (e, s) := (p.hear (Command.invoke member event).line).run s
    e :: p.replies s calls

theorem Peer.replies_cons (p : Peer σ) (s : σ) (member : String) (event : Option Value)
    (calls : List (String × Option Value)) :
    p.replies s ((member, event) :: calls) =
      ((p.hear (Command.invoke member event).line).run s).1 ::
        p.replies ((p.hear (Command.invoke member event).line).run s).2 calls := rfl

/-- Calls of members, one after the other. -/
def Peer.invokes (p : Peer σ) :
    List (String × Option Value) → StateM (Dialogue σ) (List (Except HostFault Unit))
  | [] => return []
  | (member, event) :: calls => do
    let r ← p.invoke member event
    return r :: (← p.invokes calls)

/-- Lines with one answer among them. -/
def AnswersOnce (lines : List (Option String)) (r : Except Unheard HostSignal) : Prop :=
  ∃ before l after, lines = (before ++ l :: after).map some ∧ (∀ f ∈ before, IsFiller f) ∧
    (∀ f ∈ after, IsFiller f) ∧ Answers l r

/-- Each time that a program goes on, one answer is among the lines that it ends, whatever it has
begun before. It waits for every command but may end behind the last answer. -/
def AnswerEach : List UInt8 → List Emission → List (Except Unheard HostSignal) → Prop
  | _, [], rs => rs = []
  | _, _ :: _, [] => False
  | tail, e :: es, r :: rs =>
    AnswersOnce (linesWritten (tail ++ e.bytes) e.status.isSome) r ∧ (es ≠ [] → e.status = none) ∧
      AnswerEach (cutLines (tail ++ e.bytes)).2 es rs

/-- The lines that are not read yet hold no answer. -/
def Dialogue.Quiet (d : Dialogue σ) : Prop :=
  ∃ lines : List String, d.lines = lines.map some ∧ ∀ f ∈ lines, IsFiller f

/-- What a program answers is what the next call gives, whatever stands around it. -/
theorem Dialogue.next_answer (d : Dialogue σ) (s : σ) (e : Emission) {r : Except Unheard HostSignal}
    (hquiet : d.Quiet) (h : AnswersOnce (linesWritten (d.tail ++ e.bytes) e.status.isSome) r) :
    let after := next.run ({ d with peer := s }.add e)
    after.1 = r ∧ after.2.Quiet ∧ after.2.peer = s ∧
      after.2.status = ({ d with peer := s }.add e).status ∧
      after.2.tail = ({ d with peer := s }.add e).tail := by
  obtain ⟨lines, hlines, hfillers⟩ := hquiet
  obtain ⟨before, l, after, hnew, hbefore, hafter, hl⟩ := h
  have hfront : ∀ f ∈ lines ++ before, IsFiller f := by
    intro f hf
    rcases List.mem_append.mp hf with hf | hf
    · exact hfillers f hf
    · exact hbefore f hf
  have hall : ({ d with peer := s }.add e).lines =
      (lines ++ before).map some ++ some l :: after.map some := by
    rw [lines_add, hlines, hnew, ← List.map_append, ← List.append_assoc, List.map_append,
      List.map_cons]
  rw [run_next, hall, hear_fillers hfront, hear, hl.lineKind]
  exact ⟨rfl, ⟨after, rfl, hafter⟩, peer_add d s e, rfl, rfl⟩

/-- A call is a command and the message behind it. -/
theorem Peer.run_invoke (p : Peer σ) (member : String) (event : Option Value) (d : Dialogue σ)
    (h : d.status = none) :
    let behind := ((Dialogue.send p (.invoke member event)).run d).2
    (p.invoke member event).run d =
      (invokeAnswer (Dialogue.next.run behind).1, (Dialogue.next.run behind).2) := by
  rw [invoke, StateT.run_bind, d.run_send p _ h]
  rfl

theorem Peer.run_invokes_cons (p : Peer σ) (member : String) (event : Option Value)
    (calls : List (String × Option Value)) (d : Dialogue σ) :
    (p.invokes ((member, event) :: calls)).run d =
      (((p.invoke member event).run d).1 ::
          ((p.invokes calls).run ((p.invoke member event).run d).2).1,
        ((p.invokes calls).run ((p.invoke member event).run d).2).2) := rfl

/-- A program that answers once is heard, and goes on to answer each call. -/
theorem Peer.next_heard (p : Peer σ) {calls : List (String × Option Value)} {d : Dialogue σ} {s : σ}
    {e : Emission} {r : Except Unheard HostSignal} {rs : List (Except Unheard HostSignal)}
    (hstatus : d.status = none) (hquiet : d.Quiet)
    (h : AnswerEach d.tail (e :: p.replies s calls) (r :: rs)) :
    let after := Dialogue.next.run ({ d with peer := s }.add e)
    after.1 = r ∧ after.2.Quiet ∧ (calls ≠ [] → after.2.status = none) ∧
      AnswerEach after.2.tail (p.replies after.2.peer calls) rs := by
  obtain ⟨honce, hgoes, hrest⟩ := h
  obtain ⟨hanswer, hafter, hpeer, hended, htail⟩ := d.next_answer s e hquiet honce
  refine ⟨hanswer, hafter, ?_⟩
  rw [hpeer, hended, htail, d.status_add s e hstatus]
  cases calls with
  | nil => exact ⟨fun hcalls => absurd rfl hcalls, hrest⟩
  | cons call calls =>
    have hnone := hgoes (List.cons_ne_nil _ _)
    rw [d.tail_add s e hnone]
    exact ⟨fun _ => hnone, hrest⟩

/-- Each call gets its answer. -/
theorem Peer.run_invokes (p : Peer σ) {calls : List (String × Option Value)} {d : Dialogue σ}
    {rs : List (Except Unheard HostSignal)} (hstatus : calls ≠ [] → d.status = none)
    (hquiet : d.Quiet) (h : AnswerEach d.tail (p.replies d.peer calls) rs) :
    ((p.invokes calls).run d).1 = rs.map invokeAnswer := by
  induction calls generalizing d rs with
  | nil =>
    obtain rfl : rs = [] := h
    rfl
  | cons call calls ih =>
    obtain ⟨member, event⟩ := call
    have hnone := hstatus (List.cons_ne_nil _ _)
    rw [replies_cons] at h
    rw [run_invokes_cons, p.run_invoke member event d hnone, d.run_send p _ hnone]
    generalize (p.hear (Command.invoke member event).line).run d.peer = reply at h ⊢
    obtain ⟨e, s⟩ := reply
    cases rs with
    | nil => exact h.elim
    | cons r rs =>
      obtain ⟨hanswer, hafter, hgoes, hrest⟩ := p.next_heard hnone hquiet h
      exact congrArg₂ List.cons (congrArg invokeAnswer hanswer) (ih hgoes hafter hrest)

/-! ## All of it -/

/-- How a host that is a program listens to it. -/
structure Peer.Listens (p : Peer σ) : Prop where
  /-- Lines of text that were printed fall apart into those that single calls read and those that
  are left, and what was passed on are the lines of the app among those that were read. The next call
  reads on from there. -/
  partition {es : List Emission} {rs : List (Except Unheard HostSignal)} {d : Dialogue σ}
      (h : p.Talk es rs d) {lines : List String}
      (hlines : Prints (bytesOf es) d.status.isSome lines) :
    ∃ turns rest, lines = turns.flatten ++ rest ∧ List.Forall₂ Turn turns rs ∧
      d.output = String.join ((appLines turns.flatten).map (· ++ "\n")) ∧
      ∃ taken later, rest = taken ++ later ∧ Reads d.atEnd taken later (Dialogue.next.run d).1 ∧
        (Dialogue.next.run d).2 = { d with
          lines := later.map some
          relayed := appLines (turns.flatten ++ taken) }
  /-- Loading starts the program and reads a message. -/
  load {permissions : List String} {disk : Disk} {payload : Path} {context : Context} {peer s : σ}
      {e : Emission}
      (h : (p.start disk (hostArguments permissions payload context)).run peer = (.ok e, s)) :
    ∃ d, p.Talk [e] [] d ∧ (p.load permissions disk payload context).run (.new peer) =
      (loadAnswer (Dialogue.next.run d).1, (Dialogue.next.run d).2)
  /-- A call sends a command and reads a message. -/
  invoke {es : List Emission} {rs : List (Except Unheard HostSignal)} {d : Dialogue σ}
      (h : p.Talk es rs d) (hstatus : d.status = none) (member : String) (event : Option Value) :
    ∃ e d', p.Talk (es ++ [e]) rs d' ∧ (p.invoke member event).run d =
      (invokeAnswer (Dialogue.next.run d').1, (Dialogue.next.run d').2)
  /-- A line behind the mark that is no message is an error that names it. -/
  named {l : String} {u : Unheard} (h : Answers l (.error u)) :
    ∃ text reason, l.toList = messageMark ++ text ∧
      u.error = .protocol ("bad message " ++ quoted (String.ofList text) ++ ": " ++ reason)
  /-- So is the end of the program. -/
  ended {d : Dialogue σ} {status : Nat} (h : d.status = some status) :
    d.atEnd.error = .protocol ("script host exited (exit status: " ++ decimal status ++ ")")
  /-- A program that answers its start and every command once is heard command by command. -/
  paired {permissions : List String} {disk : Disk} {payload : Path} {context : Context} {peer s : σ}
      {e : Emission} {calls : List (String × Option Value)} {r : Except Unheard HostSignal}
      {rs : List (Except Unheard HostSignal)}
      (hstart : (p.start disk (hostArguments permissions payload context)).run peer = (.ok e, s))
      (hanswers : AnswerEach [] (e :: p.replies s calls) (r :: rs)) :
    let out := (p.load permissions disk payload context).run (.new peer)
    out.1 = loadAnswer r ∧ ((p.invokes calls).run out.2).1 = rs.map invokeAnswer

theorem Peer.run_load (p : Peer σ) {permissions : List String} {disk : Disk} {payload : Path}
    {context : Context} {peer s : σ} {e : Emission}
    (h : (p.start disk (hostArguments permissions payload context)).run peer = (.ok e, s)) :
    let d := { Dialogue.new peer with peer := s }.add e
    (p.load permissions disk payload context).run (.new peer) =
      (loadAnswer (Dialogue.next.run d).1, (Dialogue.next.run d).2) := by
  have hrun : (p.start disk (hostArguments permissions payload context)).run
      (Dialogue.new peer).peer = (.ok e, s) := h
  show p.load permissions disk payload context (.new peer) = _
  rw [load, hrun]
  rfl

theorem Peer.listens (p : Peer σ) : p.Listens where
  partition {es rs d} h lines hlines := by
    obtain ⟨turns, rest, rfl, hturns, hrest, hrelayed⟩ := h.turns hlines.linesWritten
    obtain ⟨taken, later, hsplit, hreads, hnext⟩ := Dialogue.next_reads hrest
    refine ⟨turns, rest, rfl, hturns, ?_, taken, later, hsplit, hreads, ?_⟩
    · rw [Dialogue.output, hrelayed]
    · rw [hnext, hrelayed, appLines_append]
  load h := ⟨_, .start h, p.run_load h⟩
  invoke h hstatus member event :=
    ⟨_, _, h.send hstatus (.invoke member event), p.run_invoke member event _ hstatus⟩
  named h := by
    cases h with
    | garbled hmark _ => exact ⟨_, _, hmark, rfl⟩
  ended h := by
    rw [Dialogue.atEnd, h]
    rfl
  paired {_ _ _ _ peer s e calls r rs} hstart hanswers := by
    have hquiet : (Dialogue.new peer).Quiet := ⟨[], rfl, fun f hf => absurd hf List.not_mem_nil⟩
    obtain ⟨hanswer, hafter, hgoes, hrest⟩ := p.next_heard rfl hquiet hanswers
    rw [p.run_load hstart]
    exact ⟨congrArg loadAnswer hanswer, p.run_invokes hgoes hafter hrest⟩

end AppBundle
