import AppBundle.Proofs.Host.Listening
import AppBundle.Proofs.Json.RoundTrip

/-!
# Commands on their way

A command is a JSON text on a line of its own, whatever the names and events in it hold. So the bytes
that a program is sent fall apart at the line feeds into the commands, in order, and each line tells
its command (`Peer.converse_tells`): the same member with an event alike, where an event that is left
out is the empty value.

Commands are sent as long as the program runs.
-/

namespace AppBundle

open AppBundle.Json AppBundle.Text

/-! ## One command -/

namespace Command

/-- The command that a value tells. -/
def ofValue? (v : Value) : Option Command :=
  match v.member? "type", v.member? "member" with
  | some (.string "invoke"), some (.string member) => some (.invoke member (v.member? "event"))
  | some (.string "close"), _ => some .close
  | _, _ => none

/-- The command that a line of bytes tells. -/
def ofLine? (line : List UInt8) : Option Command := do
  let text ← decode? line
  let v ← Value.ofText? text
  ofValue? v

/-- The event of a call; one that is left out is the empty value. -/
def eventValue (event : Option Value) : Value := event.getD .null

/-- Commands that call the same member with events alike, or both end the program. -/
inductive Alike : Command → Command → Prop where
  /-- A call. -/
  | invoke (member : String) {e f : Option Value} (h : (eventValue e).Alike (eventValue f)) :
    Alike (.invoke member e) (.invoke member f)
  /-- The end. -/
  | close : Alike .close .close

/-- Every whole number of the event fits 64 bits. -/
def InRange : Command → Prop
  | .invoke _ event => (eventValue event).InRange
  | .close => True

theorem toJson_invoke (member : String) (event : Option Value) :
    (invoke member event).toJson = .object [("type", .string "invoke"),
      ("member", .string member), ("event", eventValue event)] := by
  cases event <;> rfl

variable {c : Command}

theorem InRange.toJson (h : c.InRange) : c.toJson.InRange := by
  cases c with
  | invoke member event =>
    rw [toJson_invoke]
    exact ⟨trivial, trivial, h, trivial⟩
  | close => exact ⟨trivial, trivial⟩

/-- A value like that of a command tells a command alike. -/
theorem ofValue?_alike {v : Value} (h : v.Alike c.toJson) :
    ∃ c', ofValue? v = some c' ∧ c'.Alike c := by
  cases c with
  | invoke member event =>
    rw [toJson_invoke] at h
    obtain ⟨_, rfl, hmembers⟩ := h.exists_object
    obtain ⟨_, _, rfl, htype, hmembers⟩ := hmembers.exists_cons
    obtain ⟨_, _, rfl, hmember, hmembers⟩ := hmembers.exists_cons
    obtain ⟨w, _, rfl, hevent, hmembers⟩ := hmembers.exists_cons
    obtain rfl := hmembers.eq_nil
    rw [htype.eq_string, hmember.eq_string]
    exact ⟨.invoke member (some w), rfl, .invoke member hevent⟩
  | close =>
    obtain ⟨_, rfl, hmembers⟩ := h.exists_object
    obtain ⟨_, _, rfl, htype, hmembers⟩ := hmembers.exists_cons
    obtain rfl := hmembers.eq_nil
    rw [htype.eq_string]
    exact ⟨.close, rfl, .close⟩

/-- The bytes of a command. -/
def bytes (c : Command) : List UInt8 := encode c.line.toList

/-- The bytes of a command in front of the line feed. -/
def textBytes (c : Command) : List UInt8 := encode c.toJson.print

/-- A line feed ends a command. -/
theorem bytes_eq (c : Command) : c.bytes = c.textBytes ++ [10] := by
  have hline : c.line.toList = c.toJson.print ++ ['\n'] := by
    rw [line, String.toList_append, Value.compact, String.toList_ofList]
    rfl
  rw [bytes, hline, encode_append]
  rfl

/-- No other line feed is in it. -/
theorem feed_notMem_textBytes (c : Command) : 10 ∉ c.textBytes :=
  feed_notMem_encode c.toJson.noControls_print.feed_notMem

/-- The line of a command tells the command. -/
theorem ofLine?_textBytes (h : c.InRange) :
    ∃ c', ofLine? c.textBytes = some c' ∧ c'.Alike c := by
  obtain ⟨v, hread, halike⟩ := Value.ofText?_print c.toJson h.toJson
  obtain ⟨c', htells, hc'⟩ := ofValue?_alike halike
  have hdecode := decode?_encode c.toJson.compact
  rw [Value.compact, String.toList_ofList] at hdecode
  rw [Value.compact] at hread
  refine ⟨c', ?_, hc'⟩
  rw [ofLine?, textBytes, hdecode, Option.bind_eq_bind, Option.bind_some, hread]
  exact htells

/-- Commands fall apart at the line feeds. -/
theorem cutLines_bytes (cs : List Command) :
    cutLines (cs.flatMap bytes) = (cs.map textBytes, []) := by
  have hlines : ∀ line ∈ cs.map textBytes, 10 ∉ line := by
    intro line hline
    obtain ⟨c, -, rfl⟩ := List.mem_map.mp hline
    exact c.feed_notMem_textBytes
  have hcut := cutLines_lines hlines []
  rw [List.append_nil, cutLines, List.append_nil] at hcut
  rw [← hcut, List.flatMap_map]
  exact congrArg cutLines (congrArg (cs.flatMap ·) (funext bytes_eq))

/-- The lines of commands tell the commands. -/
theorem tell_bytes {cs : List Command} (h : ∀ c ∈ cs, c.InRange) :
    List.Forall₂ (fun line c => ∃ c', ofLine? line = some c' ∧ c'.Alike c)
      (cs.map textBytes) cs := by
  induction cs with
  | nil => exact .nil
  | cons c cs ih =>
    exact .cons (ofLine?_textBytes (h c List.mem_cons_self))
      (ih fun b hb => h b (List.mem_cons_of_mem c hb))

end Command

/-! ## What is written to a program -/

variable {σ : Type}

/-- A program with a record of the bytes that are written to it. -/
def Peer.recorded (p : Peer σ) : Peer (σ × List UInt8) where
  path := p.path
  start disk arguments := fun (s, record) =>
    let (r, s) := (p.start disk arguments).run s
    (r, (s, record))
  hear line := fun (s, record) =>
    let (e, s) := (p.hear line).run s
    (e, (s, record ++ encode line.toList))

/-- Attempts to end the program. -/
def Peer.closes (p : Peer σ) : Nat → StateM (Dialogue σ) Unit
  | 0 => return
  | n + 1 => do
    let _ ← p.close
    p.closes n

/-- Calls of members, and then attempts to end the program. -/
def Peer.converse (p : Peer σ) (calls : List (String × Option Value)) (n : Nat) :
    StateM (Dialogue σ) Unit := do
  let _ ← p.invokes calls
  p.closes n

/-- The commands of a conversation. -/
def commands (calls : List (String × Option Value)) (n : Nat) : List Command :=
  calls.map (fun (member, event) => .invoke member event) ++ List.replicate n .close

theorem inRange_commands {calls : List (String × Option Value)}
    (h : ∀ call ∈ calls, ∀ event ∈ call.2, event.InRange) (n : Nat) {c : Command}
    (hc : c ∈ commands calls n) : c.InRange := by
  rcases List.mem_append.mp hc with hc | hc
  · obtain ⟨⟨member, event⟩, hcall, rfl⟩ := List.mem_map.mp hc
    cases event with
    | none => exact trivial
    | some event => exact h _ hcall event rfl
  · rw [List.eq_of_mem_replicate hc]
    exact trivial

variable {d d' d'' : Dialogue (σ × List UInt8)}

/-- From one state of a conversation to another commands are written in order until the program ends,
and the others are not. -/
def Dialogue.Writes (d : Dialogue (σ × List UInt8)) (cs : List Command)
    (d' : Dialogue (σ × List UInt8)) : Prop :=
  ∃ sent unsent, cs = sent ++ unsent ∧ d'.peer.2 = d.peer.2 ++ sent.flatMap Command.bytes ∧
    (unsent ≠ [] → d'.status ≠ none) ∧ (d.status ≠ none → sent = [] ∧ d'.status ≠ none)

/-- A program that has ended takes no command. -/
theorem Dialogue.run_send_ended (d : Dialogue σ) (p : Peer σ) (c : Command) {status : Nat}
    (h : d.status = some status) :
    (send p c).run d = (.error (.io "Broken pipe (os error 32)"), d) := by
  show send p c d = _
  rw [send, h]

theorem Dialogue.run_invoke_ended (d : Dialogue σ) (p : Peer σ) (member : String)
    (event : Option Value) {status : Nat} (h : d.status = some status) :
    ((p.invoke member event).run d).2 = d := by
  rw [Peer.invoke, StateT.run_bind, d.run_send_ended _ _ h]
  rfl

namespace Dialogue.Writes

theorem refl (d : Dialogue (σ × List UInt8)) : Writes d [] d :=
  ⟨[], [], rfl, (List.append_nil _).symm, fun h => absurd rfl h, fun h => ⟨rfl, h⟩⟩

/-- If the program ends during the first part, nothing of the second is sent. -/
theorem trans {cs cs' : List Command} (h : Writes d cs d') (h' : Writes d' cs' d'') :
    Writes d (cs ++ cs') d'' := by
  obtain ⟨sent, unsent, rfl, hrecord, hunsent, hended⟩ := h
  obtain ⟨sent', unsent', rfl, hrecord', hunsent', hended'⟩ := h'
  -- where something of the first part is not sent, the program has ended before the second
  by_cases hall : unsent = []
  · subst hall
    refine ⟨sent ++ sent', unsent', by simp, ?_, hunsent', fun h => ?_⟩
    · rw [hrecord', hrecord, List.flatMap_append, List.append_assoc]
    · obtain ⟨rfl, hstatus⟩ := hended h
      exact hended' hstatus
  · obtain ⟨rfl, hstatus⟩ := hended' (hunsent hall)
    refine ⟨sent, unsent ++ unsent', by simp, ?_, fun _ => hstatus, fun h => ?_⟩
    · rw [hrecord', hrecord, List.flatMap_nil, List.append_nil]
    · exact ⟨(hended h).1, hstatus⟩

variable (p : Peer σ) (d : Dialogue (σ × List UInt8))

/-- Only a program that runs is sent a command. -/
theorem send (c : Command) : Writes d [c] ((Dialogue.send p.recorded c).run d).2 := by
  cases hstatus : d.status with
  | none =>
    rw [d.run_send p.recorded c hstatus]
    refine ⟨[c], [], rfl, ?_, fun h => absurd rfl h, fun h => absurd hstatus h⟩
    rw [peer_add, List.flatMap_singleton]
    rfl
  | some status =>
    have hended : d.status ≠ none := by simp [hstatus]
    rw [d.run_send_ended p.recorded c hstatus]
    exact ⟨[], [c], rfl, (List.append_nil _).symm, fun _ => hended, fun _ => ⟨rfl, hended⟩⟩

/-- Reading a message writes nothing. -/
theorem next : Writes d [] (Dialogue.next.run d).2 := by
  rw [run_next]
  exact refl d

theorem invoke (member : String) (event : Option Value) :
    Writes d [.invoke member event] ((p.recorded.invoke member event).run d).2 := by
  have hsend := send p d (.invoke member event)
  cases hstatus : d.status with
  | none =>
    rw [p.recorded.run_invoke member event d hstatus]
    exact hsend.trans (next _)
  | some status =>
    rw [d.run_send_ended _ _ hstatus] at hsend
    rw [d.run_invoke_ended _ _ _ hstatus]
    exact hsend

theorem invokes (calls : List (String × Option Value)) :
    Writes d (calls.map fun (member, event) => .invoke member event)
      ((p.recorded.invokes calls).run d).2 := by
  induction calls generalizing d with
  | nil => exact refl d
  | cons call calls ih =>
    rw [Peer.run_invokes_cons]
    exact (invoke p d call.1 call.2).trans (ih _)

theorem closes (n : Nat) : Writes d (List.replicate n .close) ((p.recorded.closes n).run d).2 := by
  induction n generalizing d with
  | zero => exact refl d
  | succ n ih => exact (send p d .close).trans (ih _)

theorem converse (calls : List (String × Option Value)) (n : Nat) :
    Writes d (commands calls n) ((p.recorded.converse calls n).run d).2 :=
  (invokes p d calls).trans (closes p _ n)

end Dialogue.Writes

/-! ## The record -/

namespace Dialogue

variable (p : Peer σ) (d : Dialogue (σ × List UInt8))

/-- The conversation without the record. -/
def forget (d : Dialogue (σ × List UInt8)) : Dialogue σ :=
  ⟨d.peer.1, d.lines, d.tail, d.status, d.relayed⟩

theorem forget_send (c : Command) :
    ((send p.recorded c).run d).2.forget = ((send p c).run d.forget).2 := by
  cases hstatus : d.status with
  | none =>
    rw [d.run_send _ _ hstatus, d.forget.run_send _ _ hstatus]
    simp only [add]
    generalize hemission : (p.hear c.line).run d.forget.peer = reply
    have hrecorded : (p.recorded.hear c.line).run d.peer =
        (reply.1, (reply.2, d.peer.2 ++ c.bytes)) := by
      rw [← hemission]
      rfl
    rw [hrecorded]
    cases reply.1.status <;> rfl
  | some status =>
    rw [d.run_send_ended _ _ hstatus, d.forget.run_send_ended _ _ hstatus]

theorem forget_invoke (member : String) (event : Option Value) :
    ((p.recorded.invoke member event).run d).2.forget =
      ((p.invoke member event).run d.forget).2 := by
  have hsend := forget_send p d (.invoke member event)
  cases hstatus : d.status with
  | none =>
    rw [p.recorded.run_invoke member event d hstatus, p.run_invoke member event d.forget hstatus,
      ← hsend]
    rfl
  | some status =>
    rw [d.run_invoke_ended _ _ _ hstatus, d.forget.run_invoke_ended _ _ _ hstatus]

theorem forget_invokes (calls : List (String × Option Value)) :
    ((p.recorded.invokes calls).run d).2.forget = ((p.invokes calls).run d.forget).2 := by
  induction calls generalizing d with
  | nil => rfl
  | cons call calls ih =>
    rw [Peer.run_invokes_cons, Peer.run_invokes_cons, ← forget_invoke]
    exact ih _

theorem forget_closes (n : Nat) :
    ((p.recorded.closes n).run d).2.forget = ((p.closes n).run d.forget).2 := by
  induction n generalizing d with
  | zero => rfl
  | succ n ih =>
    have hclose := forget_send p d .close
    exact (ih _).trans (congrArg (fun d => ((p.closes n).run d).2) hclose)

/-- Whether there is a record makes no difference to a conversation. -/
theorem forget_converse (calls : List (String × Option Value)) (n : Nat) :
    ((p.recorded.converse calls n).run d).2.forget = ((p.converse calls n).run d.forget).2 := by
  have hcloses := forget_closes p ((p.recorded.invokes calls).run d).2 n
  rw [forget_invokes] at hcloses
  exact hcloses

end Dialogue

/-! ## A conversation -/

/-- What is written in a conversation tells the commands that are sent: a line feed stands at the end
of each and nowhere else, and the lines that they end tell the same commands in order. All commands
are sent, unless the program ends before. -/
theorem Peer.converse_tells (p : Peer σ) {calls : List (String × Option Value)}
    (hcalls : ∀ call ∈ calls, ∀ event ∈ call.2, event.InRange) (n : Nat)
    (d : Dialogue (σ × List UInt8)) :
    let d' := ((p.recorded.converse calls n).run d).2
    d'.forget = ((p.converse calls n).run d.forget).2 ∧
      ∃ sent unsent, commands calls n = sent ++ unsent ∧ (unsent ≠ [] → d'.status ≠ none) ∧
        d'.peer.2 = d.peer.2 ++ sent.flatMap Command.bytes ∧
        (∀ c ∈ sent, ∃ text, c.bytes = text ++ [10] ∧ 10 ∉ text) ∧
        ∃ lines, cutLines (sent.flatMap Command.bytes) = (lines, []) ∧
          List.Forall₂ (fun line c => ∃ c', Command.ofLine? line = some c' ∧ c'.Alike c)
            lines sent := by
  intro d'
  obtain ⟨sent, unsent, hcommands, hrecord, hunsent, -⟩ := Dialogue.Writes.converse p d calls n
  have hrange : ∀ c ∈ sent, c.InRange := fun c hc =>
    inRange_commands hcalls n (hcommands ▸ List.mem_append_left unsent hc)
  have hlines : ∀ c ∈ sent, ∃ text, c.bytes = text ++ [10] ∧ 10 ∉ text := fun c _ =>
    ⟨c.textBytes, c.bytes_eq, c.feed_notMem_textBytes⟩
  exact ⟨Dialogue.forget_converse p d calls n, sent, unsent, hcommands, hunsent, hrecord, hlines,
    sent.map Command.textBytes, Command.cutLines_bytes sent, Command.tell_bytes hrange⟩

/-- A program that prints every line that it hears. -/
def echo : Peer Unit where
  path := "echo"
  start _ _ := pure (.ok ⟨[], none⟩)
  hear line := pure ⟨encode line.toList, none⟩

/-- A member and an event with quotes, backslashes, line feeds and control characters in them, and
numbers that are read as they are written. -/
def brokenLines : String × Option Value :=
  ("on\"click\\\n", some (.object [("line\nfeed", .array [.string "\x01\r\n\x1f\\",
    .number (.decimal true 2500 (-3)), .number (.integer 18446744073709551615)])]))

/-- Two calls and two attempts to end the program are told. -/
theorem echo_told :
    (∀ call ∈ [brokenLines, ("__h0", none)], ∀ event ∈ call.2, event.InRange) ∧
      let d' := ((echo.recorded.converse [brokenLines, ("__h0", none)] 2).run (.new ((), []))).2
      d'.forget = ((echo.converse [brokenLines, ("__h0", none)] 2).run (.new ())).2 ∧
        ∃ sent unsent, commands [brokenLines, ("__h0", none)] 2 = sent ++ unsent ∧
          (unsent ≠ [] → d'.status ≠ none) ∧ d'.peer.2 = [] ++ sent.flatMap Command.bytes ∧
          (∀ c ∈ sent, ∃ text, c.bytes = text ++ [10] ∧ 10 ∉ text) ∧
          ∃ lines, cutLines (sent.flatMap Command.bytes) = (lines, []) ∧
            List.Forall₂ (fun line c => ∃ c', Command.ofLine? line = some c' ∧ c'.Alike c)
              lines sent := by
  have hcalls : ∀ call ∈ [brokenLines, ("__h0", none)], ∀ event ∈ call.2, event.InRange := by
    intro call hcall event hevent
    rcases List.mem_cons.mp hcall with rfl | hcall
    · obtain rfl := Option.some.inj hevent
      exact ⟨⟨trivial, trivial, ⟨by decide, by decide⟩, trivial⟩, trivial⟩
    · rw [List.mem_singleton.mp hcall] at hevent
      exact nomatch hevent
  exact ⟨hcalls, echo.converse_tells hcalls 2 (.new ((), []))⟩

end AppBundle
