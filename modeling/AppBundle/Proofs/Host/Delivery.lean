import AppBundle.Proofs.Host.Listening
import AppBundle.Proofs.Text.Lines

/-!
# Messages behind text

An app writes text of its own to the same stream as the messages that are sent on its behalf, and a
message is looked for at the beginning of a line. So a message is delivered if what the app wrote in
front of it is nothing or ends in a line feed. If the app left a line unfinished, the message is taken
for the rest of that line and passed on with it: it is lost (`unfinishedLine_takes_message`).

This is all that can happen to a message. For text that does not hold the mark, the messages that
stand at the beginning of a line are delivered, all of them and in order, and what is passed on are
the other lines (`Peer.Talk.delivered`).
-/

namespace AppBundle

open AppBundle.Json AppBundle.Text

variable {cs l rest : List Char} {lines : List String}

/-! ## Lines that have ended, and one that has not -/

/-- The lines that a line feed has ended. -/
def endedLines (cs : List Char) : List (List Char) :=
  (pieces cs).dropLast.map dropReturn

/-- What follows the last line feed. -/
def openLine (cs : List Char) : List Char :=
  (pieces cs).getLastD []

/-- The lines of a text; the end of the program ends a line too. -/
def streamLines (cs : List Char) (ended : Bool) : List (List Char) :=
  endedLines cs ++ if ended && !(openLine cs).isEmpty then [openLine cs] else []

theorem pieces_eq_concat (cs : List Char) : pieces cs = (pieces cs).dropLast ++ [openLine cs] := by
  have hne : pieces cs ≠ [] := split_ne_nil _ _
  rw [openLine, List.getLastD_eq_getLast?, List.getLast?_eq_some_getLast hne, Option.getD_some,
    List.dropLast_append_getLast]

theorem feed_notMem_of_mem_dropLast (h : l ∈ (pieces cs).dropLast) : '\n' ∉ l :=
  feed_notMem_of_mem_pieces (List.dropLast_subset _ h)

theorem feed_notMem_openLine (cs : List Char) : '\n' ∉ openLine cs := by
  have hmem : openLine cs ∈ pieces cs := by
    rw [pieces_eq_concat cs]
    exact List.mem_append_right _ (List.mem_singleton_self _)
  exact feed_notMem_of_mem_pieces hmem

/-- A text is its ended lines, as they stand there, and the open one. -/
theorem unlines_append_openLine (cs : List Char) :
    unlines (pieces cs).dropLast ++ openLine cs = cs := by
  have hunlines := unlines_pieces cs
  have hopen : unlines [openLine cs] = openLine cs ++ ['\n'] := rfl
  rw [pieces_eq_concat cs, unlines_append, hopen, ← List.append_assoc] at hunlines
  exact List.append_cancel_right hunlines

/-- A line is open unless nothing is written or a line feed comes last. -/
theorem openLine_eq_nil_iff : openLine cs = [] ↔ cs = [] ∨ cs.getLast? = some '\n' := by
  constructor
  · intro hopen
    have hcs := unlines_append_openLine cs
    rw [hopen, List.append_nil] at hcs
    rcases (pieces cs).dropLast.eq_nil_or_concat' with hnil | ⟨ls, l, hls⟩
    · rw [hnil] at hcs
      exact .inl hcs.symm
    · rw [hls, unlines_append] at hcs
      have hlast : unlines [l] = l ++ ['\n'] := rfl
      rw [hlast, ← List.append_assoc] at hcs
      rw [← hcs, List.getLast?_concat]
      exact .inr rfl
  · rintro (rfl | hlast)
    · rfl
    · obtain ⟨front, rfl⟩ := List.getLast?_eq_some_iff.mp hlast
      have hpieces : pieces (front ++ ['\n']) = pieces front ++ [[]] := split_append_cons '\n' front []
      rw [openLine, hpieces, List.getLastD_concat]

/-- A line that goes on where a text ends. -/
theorem pieces_append_line (cs : List Char) (h : '\n' ∉ l) :
    pieces (cs ++ l) = (pieces cs).dropLast ++ [openLine cs ++ l] := by
  have hfeed : '\n' ∉ openLine cs ++ l := by
    rw [List.mem_append, not_or]
    exact ⟨feed_notMem_openLine cs, h⟩
  have hlines : ∀ m ∈ (pieces cs).dropLast, '\n' ∉ m := fun m hm => feed_notMem_of_mem_dropLast hm
  have hsplit := pieces_unlines_append hlines (openLine cs ++ l)
  rw [← List.append_assoc, unlines_append_openLine] at hsplit
  rw [hsplit]
  exact congrArg _ (split_of_notMem hfeed)

theorem dropReturn_of_getLast? (h : l.getLast? ≠ some '\r') : dropReturn l = l := by
  rw [dropReturn]
  split
  · next hreturn => exact absurd hreturn h
  · rfl

theorem dropReturn_return (l : List Char) : dropReturn (l ++ ['\r']) = l := by
  simp [dropReturn]

theorem prefix_dropReturn (l : List Char) : dropReturn l <+: l := by
  rw [dropReturn]
  split
  · exact List.dropLast_prefix l
  · exact List.prefix_rfl

/-- A line that goes on where a text ends, and is ended. -/
theorem streamLines_append_line (cs : List Char) (hfeed : '\n' ∉ l) (hne : l ≠ [])
    (hreturn : l.getLast? ≠ some '\r') (rest : List Char) (ended : Bool) :
    streamLines (cs ++ l ++ '\n' :: rest) ended =
      endedLines cs ++ (openLine cs ++ l) :: streamLines rest ended := by
  have hrest : pieces rest ≠ [] := split_ne_nil _ _
  have hpieces : pieces (cs ++ l ++ '\n' :: rest) =
      ((pieces cs).dropLast ++ [openLine cs ++ l]) ++ pieces rest := by
    rw [← pieces_append_line cs hfeed]
    exact split_append_cons '\n' (cs ++ l) rest
  have hline : dropReturn (openLine cs ++ l) = openLine cs ++ l := by
    refine dropReturn_of_getLast? ?_
    rw [List.getLast?_append_of_ne_nil _ hne]
    exact hreturn
  have hended : endedLines (cs ++ l ++ '\n' :: rest) =
      endedLines cs ++ (openLine cs ++ l) :: endedLines rest := by
    rw [endedLines, hpieces, List.dropLast_append_of_ne_nil hrest, List.map_append, List.map_append,
      List.map_singleton, hline, List.append_assoc]
    rfl
  have hopen : openLine (cs ++ l ++ '\n' :: rest) = openLine rest := by
    rw [openLine, hpieces, List.getLastD_eq_getLast?, List.getLast?_append_of_ne_nil _ hrest,
      ← List.getLastD_eq_getLast?]
    rfl
  rw [streamLines, hended, hopen, List.append_assoc]
  rfl

/-! ## The lines of a stream of characters -/

theorem lineText?_encode (l : List Char) :
    lineText? (encode l) = some (String.ofList (dropReturn l)) := by
  have hdecode := decode?_encode (String.ofList l)
  rw [String.toList_ofList] at hdecode
  rw [lineText?, hdecode, Option.map_some, String.toList_ofList]
  by_cases hreturn : l.getLast? = some '\r'
  · obtain ⟨front, rfl⟩ := List.getLast?_eq_some_iff.mp hreturn
    rw [if_pos hreturn, dropReturn_return, List.dropLast_concat]
  · rw [if_neg hreturn, dropReturn_of_getLast? hreturn]

theorem encode_unlines (ls : List (List Char)) :
    encode (unlines ls) = (ls.map encode).flatMap (· ++ [10]) := by
  induction ls with
  | nil => rfl
  | cons l ls ih =>
    have hfeed : encode ('\n' :: unlines ls) = 10 :: encode (unlines ls) := rfl
    rw [unlines, encode_append, hfeed, ih, List.map_cons, List.flatMap_cons, List.append_assoc]
    rfl

/-- The lines of a text are what is read of its bytes. -/
theorem linesWritten_encode (cs : List Char) (ended : Bool) :
    linesWritten (encode cs) ended = ((streamLines cs ended).map String.ofList).map some := by
  have hcut : cutLines (encode cs) = ((pieces cs).dropLast.map encode, encode (openLine cs)) := by
    have hlines : ∀ line ∈ (pieces cs).dropLast.map encode, 10 ∉ line := by
      intro line hline
      obtain ⟨l, hl, rfl⟩ := List.mem_map.mp hline
      exact feed_notMem_encode (feed_notMem_of_mem_dropLast hl)
    have hopen := cutLines_of_notMem (feed_notMem_encode (feed_notMem_openLine cs))
    conv_lhs => rw [← unlines_append_openLine cs, encode_append, encode_unlines]
    rw [cutLines_lines hlines, hopen, List.append_nil]
  have hended : ((pieces cs).dropLast.map encode).map lineText? =
      ((endedLines cs).map String.ofList).map some := by
    rw [endedLines, List.map_map, List.map_map, List.map_map]
    exact List.map_congr_left fun l _ => lineText?_encode l
  have hdecode := decode?_encode (String.ofList (openLine cs))
  rw [String.toList_ofList] at hdecode
  have hempty : (encode (openLine cs)).isEmpty = (openLine cs).isEmpty := by
    rw [Bool.eq_iff_iff, List.isEmpty_iff, List.isEmpty_iff, encode_eq_nil]
  rw [linesWritten, hcut, hended, hdecode, hempty, streamLines, List.map_append, List.map_append]
  cases ended && !(openLine cs).isEmpty <;> rfl

/-! ## Messages among lines -/

/-- The message on a line. -/
def lineMessage? (l : String) : Option HostSignal :=
  match lineKind (some l) with
  | .answer (.ok m) => some m
  | _ => none

/-- The messages among lines. -/
def messagesAmong (lines : List String) : List HostSignal := lines.filterMap lineMessage?

theorem messagesAmong_append (front back : List String) :
    messagesAmong (front ++ back) = messagesAmong front ++ messagesAmong back :=
  List.filterMap_append

theorem lineMessage?_app {l : String} (h : IsAppLine l) : lineMessage? l = none := by
  rw [lineMessage?, lineKind_app h]

theorem lineMessage?_context {l : String} (h : IsContextLine l) : lineMessage? l = none := by
  rw [lineMessage?, lineKind_context h]

theorem lineMessage?_answers {l : String} {r : Except Unheard HostSignal} (h : Answers l r) :
    lineMessage? l = r.toOption := by
  rw [lineMessage?, h.lineKind]
  cases r <;> rfl

theorem Answers.unique {l : String} {r r' : Except Unheard HostSignal} (h : Answers l r)
    (h' : Answers l r') : r = r' :=
  LineKind.answer.inj (h.lineKind.symm.trans h'.lineKind)

theorem messagesAmong_fillers (h : ∀ f ∈ lines, IsFiller f) : messagesAmong lines = [] := by
  refine List.filterMap_eq_nil_iff.mpr fun f hf => ?_
  rcases h f hf with happ | hcontext
  · exact lineMessage?_app happ
  · exact lineMessage?_context hcontext

/-- A call reads one message or none. -/
theorem Reads.messagesAmong {atEnd : Unheard} {taken rest : List String}
    {r : Except Unheard HostSignal} (h : Reads atEnd taken rest r) :
    messagesAmong taken = r.toOption.toList := by
  cases h with
  | answered rest hbefore hl =>
    rw [messagesAmong_append, messagesAmong_fillers hbefore]
    simp only [AppBundle.messagesAmong, List.filterMap_cons, lineMessage?_answers hl,
      List.filterMap_nil, List.nil_append]
    cases r.toOption <;> rfl
  | unanswered hbefore =>
    rw [messagesAmong_fillers hbefore]
    rfl

/-- What calls read are the messages among the lines that they read. -/
theorem messagesAmong_turns {turns : List (List String)} {rs : List (Except Unheard HostSignal)}
    (h : List.Forall₂ Turn turns rs) :
    messagesAmong turns.flatten = rs.filterMap Except.toOption := by
  induction h with
  | nil => rfl
  | cons hturn _ ih =>
    obtain ⟨_, _, _, hreads⟩ := hturn
    rw [List.flatten_cons, messagesAmong_append, ih, hreads.messagesAmong, List.filterMap_cons]
    split <;> simp [*]

/-- A call for a message, among lines whose marks all begin messages, gives the first of these. -/
theorem Reads.first {atEnd : Unheard} {taken rest : List String} {r : Except Unheard HostSignal}
    (h : Reads atEnd taken rest r) (hmessages : ∀ l ∈ taken, ∀ u, ¬ Answers l (.error u)) :
    (∃ m, r = .ok m ∧ AppBundle.messagesAmong (taken ++ rest) = m :: AppBundle.messagesAmong rest) ∨
      r = .error atEnd ∧ rest = [] ∧ AppBundle.messagesAmong taken = [] := by
  have hmessage := h.messagesAmong
  cases h with
  | answered rest hbefore hl =>
    cases r with
    | ok m =>
      rw [messagesAmong_append, hmessage]
      exact .inl ⟨m, rfl, rfl⟩
    | error u =>
      exact absurd hl (hmessages _ (List.mem_append_right _ (List.mem_singleton_self _)) u)
  | unanswered hbefore => exact .inr ⟨rfl, rfl, hmessage⟩

/-! ## Text without the mark -/

theorem infix_of_mem_dropLast (h : l ∈ (pieces cs).dropLast) : l <:+: cs := by
  obtain ⟨front, back, hsplit⟩ := List.append_of_mem h
  have hcs := unlines_append_openLine cs
  rw [hsplit, unlines_append, unlines] at hcs
  refine ⟨unlines front, '\n' :: unlines back ++ openLine cs, ?_⟩
  simpa using hcs

theorem infix_openLine (cs : List Char) : openLine cs <:+: cs :=
  ⟨unlines (pieces cs).dropLast, [], by rw [List.append_nil, unlines_append_openLine]⟩

/-- A line out of a text without the mark is a line of the app. -/
theorem isAppLine_of_infix (hcs : ¬ messageMark <:+: cs) (hl : l <:+: cs) :
    IsAppLine (String.ofList l) := by
  intro hmark
  rw [String.toList_ofList] at hmark
  exact hcs (hmark.isInfix.trans hl)

theorem isAppLine_endedLines (hcs : ¬ messageMark <:+: cs) :
    ∀ l ∈ (endedLines cs).map String.ofList, IsAppLine l := by
  intro line hline
  obtain ⟨l, hl, rfl⟩ := List.mem_map.mp hline
  obtain ⟨m, hm, rfl⟩ := List.mem_map.mp hl
  exact isAppLine_of_infix hcs ((prefix_dropReturn m).isInfix.trans (infix_of_mem_dropLast hm))

theorem isAppLine_streamLines (hcs : ¬ messageMark <:+: cs) (ended : Bool) :
    ∀ l ∈ (streamLines cs ended).map String.ofList, IsAppLine l := by
  intro line hline
  rw [streamLines, List.map_append] at hline
  rcases List.mem_append.mp hline with hline | hline
  · exact isAppLine_endedLines hcs line hline
  · split at hline
    · rw [List.map_singleton, List.mem_singleton] at hline
      rw [hline]
      exact isAppLine_of_infix hcs (infix_openLine cs)
    · exact absurd hline List.not_mem_nil

/-- The mark begins with a character that it does not hold again, so behind the beginning of a line no
other mark begins that line. -/
theorem isAppLine_append_mark (hl : ¬ messageMark <:+: l) (hne : l ≠ []) (rest : List Char) :
    IsAppLine (String.ofList (l ++ (messageMark ++ rest))) := by
  have hone : '\x01' ∉ "melker ".toList := by decide
  intro hmark
  rw [String.toList_ofList] at hmark
  obtain ⟨c, behind, rfl⟩ := List.exists_cons_of_ne_nil hne
  obtain ⟨hc, hmark⟩ := List.cons_prefix_cons.mp hmark
  have hbehind : ¬ "melker ".toList <+: behind := fun hprefix =>
    hl (List.IsPrefix.isInfix (List.cons_prefix_cons.mpr ⟨hc, hprefix⟩))
  rcases List.prefix_or_prefix_of_prefix hmark (List.prefix_append behind _) with hfirst | ⟨more, hmore⟩
  · exact hbehind hfirst
  · have hmore' : behind ++ more <+: behind ++ (messageMark ++ rest) := hmore ▸ hmark
    have hnext := (List.prefix_append_right_inj behind).mp hmore'
    cases more with
    | nil =>
      rw [List.append_nil] at hmore
      exact hbehind (hmore ▸ List.prefix_rfl)
    | cons d more =>
      obtain ⟨hd, -⟩ := List.cons_prefix_cons.mp hnext
      refine hone ?_
      rw [← hmore, hd]
      exact List.mem_append_right _ List.mem_cons_self

theorem appLines_of_forall (h : ∀ l ∈ lines, IsAppLine l) : appLines lines = lines :=
  List.filter_eq_self.mpr fun l hl => decide_eq_true (h l hl)

/-! ## Text and messages -/

/-- A message on its way: its text, and what this is read as. -/
structure Packet where
  /-- The text behind the mark. -/
  text : List Char
  /-- The message. -/
  signal : HostSignal
  /-- The text is read as the message. -/
  reads : HostSignal.decoder.readText (String.ofList text) = .ok signal
  /-- It is on one line. -/
  feed_notMem : '\n' ∉ text
  /-- No carriage return ends it. -/
  no_return : text.getLast? ≠ some '\r'

namespace Packet

/-- The message as it is sent, without the line feed behind it. -/
def line (m : Packet) : List Char := messageMark ++ m.text

/-- What a call for a message gives; calls of the context are not told. -/
def told? (m : Packet) : Option HostSignal :=
  match m.signal with
  | .context _ _ => none
  | signal => some signal

variable (m : Packet)

theorem feed_notMem_line : '\n' ∉ m.line := by
  rw [line, List.mem_append, not_or]
  exact ⟨by decide, m.feed_notMem⟩

theorem line_ne_nil : m.line ≠ [] := by simp [line, messageMark]

theorem getLast?_line : m.line.getLast? ≠ some '\r' := by
  rw [line, List.getLast?_append]
  cases hlast : m.text.getLast? with
  | none => decide
  | some c =>
    have hc := m.no_return
    rwa [hlast] at hc

theorem isContextLine_or_answers :
    m.told? = none ∧ IsContextLine (String.ofList m.line) ∨
      ∃ signal, m.told? = some signal ∧ Answers (String.ofList m.line) (.ok signal) := by
  have hline : (String.ofList m.line).toList = messageMark ++ m.text := String.toList_ofList
  have hreads := m.reads
  rw [told?]
  cases hsignal : m.signal with
  | context member arguments =>
    rw [hsignal] at hreads
    exact .inl ⟨rfl, m.text, member, arguments, hline, hreads⟩
  | loaded | malformed | done | failed =>
    rw [hsignal] at hreads
    exact .inr ⟨_, rfl, .message hline hreads fun _ _ => nofun⟩

end Packet

/-- What an app writes and the message that is sent behind it. -/
structure Passage where
  /-- The text. -/
  text : List Char
  /-- It does not hold the mark. -/
  clean : ¬ messageMark <:+: text
  /-- The message. -/
  packet : Packet

/-- The stream of passages and of the text behind the last message. -/
def written (ps : List Passage) (last : List Char) : List Char :=
  ps.flatMap (fun p => p.text ++ p.packet.line ++ ['\n']) ++ last

namespace Passage

/-- The message stands at the beginning of a line. -/
def Fresh (p : Passage) : Prop := p.text = [] ∨ p.text.getLast? = some '\n'

instance (p : Passage) : Decidable p.Fresh :=
  inferInstanceAs (Decidable (p.text = [] ∨ p.text.getLast? = some '\n'))

/-- The message, if it is delivered. -/
def delivered? (p : Passage) : Option HostSignal := if p.Fresh then p.packet.told? else none

/-- The line on which the message is sent. -/
def lastLine (p : Passage) : List Char := openLine p.text ++ p.packet.line

/-- What is passed on: the lines that have ended, and a line that the message came into. -/
def passed (p : Passage) : List (List Char) :=
  endedLines p.text ++ if p.Fresh then [] else [p.lastLine]

variable (p : Passage)

/-- A message at the beginning of a line is a line; any other makes a line of the app. -/
theorem lastLine_cases :
    p.Fresh ∧ p.lastLine = p.packet.line ∨ ¬ p.Fresh ∧ IsAppLine (String.ofList p.lastLine) := by
  have hopen : openLine p.text = [] ↔ p.Fresh := openLine_eq_nil_iff
  by_cases hfresh : p.Fresh
  · refine .inl ⟨hfresh, ?_⟩
    rw [lastLine, hopen.mpr hfresh, List.nil_append]
  · have hclean : ¬ messageMark <:+: openLine p.text := fun hmark =>
      p.clean (hmark.trans (infix_openLine p.text))
    exact .inr ⟨hfresh, isAppLine_append_mark hclean (mt hopen.mp hfresh) p.packet.text⟩

/-- What becomes of the line on which a message is sent. -/
theorem lastLine_read :
    (∀ u, ¬ Answers (String.ofList p.lastLine) (.error u)) ∧
      messagesAmong [String.ofList p.lastLine] = p.delivered?.toList ∧
      appLines [String.ofList p.lastLine] =
        (if p.Fresh then [] else [p.lastLine]).map String.ofList := by
  rw [delivered?]
  rcases p.lastLine_cases with ⟨hfresh, hline⟩ | ⟨hfresh, happ⟩
  · rw [hline, if_pos hfresh, if_pos hfresh]
    rcases p.packet.isContextLine_or_answers with ⟨htold, hcontext⟩ | ⟨signal, htold, hanswers⟩
    · refine ⟨fun u hu => ?_, ?_, appLines_singleton_of_not (not_isAppLine_of_context hcontext)⟩
      · have hkind := hu.lineKind
        rw [lineKind_context hcontext] at hkind
        exact nomatch hkind
      · rw [htold]
        exact messagesAmong_fillers fun f hf => .inr (List.mem_singleton.mp hf ▸ hcontext)
    · refine ⟨fun u hu => absurd (hu.unique hanswers) (by simp), ?_,
        appLines_singleton_of_not hanswers.not_isAppLine⟩
      rw [htold, messagesAmong, List.filterMap_cons, lineMessage?_answers hanswers]
      rfl
  · rw [if_neg hfresh, if_neg hfresh]
    refine ⟨fun u hu => hu.not_isAppLine happ, ?_, appLines_singleton happ⟩
    rw [messagesAmong, List.filterMap_cons, lineMessage?_app happ]
    rfl

/-- The lines of a passage. -/
theorem streamLines_written (ps : List Passage) (last : List Char) (ended : Bool) :
    streamLines (written (p :: ps) last) ended =
      endedLines p.text ++ p.lastLine :: streamLines (written ps last) ended := by
  have hwritten : written (p :: ps) last =
      p.text ++ p.packet.line ++ '\n' :: written ps last := by
    simp [written]
  rw [hwritten]
  exact streamLines_append_line p.text p.packet.feed_notMem_line p.packet.line_ne_nil
    p.packet.getLast?_line _ ended

end Passage

/-- What is passed on of a stream. -/
def passedOn (ps : List Passage) (last : List Char) (ended : Bool) : List (List Char) :=
  ps.flatMap Passage.passed ++ streamLines last ended

/-- What a stream tells: no line of it is a broken message, the messages among its lines are those at
the beginning of a line, and the other lines are for the app. -/
theorem written_read (ps : List Passage) {last : List Char} (hlast : ¬ messageMark <:+: last)
    (ended : Bool) :
    let lines := (streamLines (written ps last) ended).map String.ofList
    (∀ l ∈ lines, ∀ u, ¬ Answers l (.error u)) ∧
      messagesAmong lines = ps.filterMap Passage.delivered? ∧
      appLines lines = (passedOn ps last ended).map String.ofList := by
  induction ps with
  | nil =>
    have happ := isAppLine_streamLines hlast ended
    refine ⟨fun l hl u hu => hu.not_isAppLine (happ l hl), ?_, appLines_of_forall happ⟩
    exact messagesAmong_fillers fun f hf => .inl (happ f hf)
  | cons p ps ih =>
    obtain ⟨herror, hmessages, happ⟩ := ih
    obtain ⟨hlineError, hlineMessages, hlineApp⟩ := p.lastLine_read
    have hended := isAppLine_endedLines p.clean
    have hendedMessages := messagesAmong_fillers fun f hf => .inl (hended f hf)
    rw [p.streamLines_written, List.map_append, List.map_cons, ← List.singleton_append]
    -- the lines that the passage ends, its last line, and the lines behind it
    refine ⟨fun l hl u hu => ?_, ?_, ?_⟩
    · rcases List.mem_append.mp hl with hl | hl
      · exact hu.not_isAppLine (hended l hl)
      · rcases List.mem_append.mp hl with hl | hl
        · exact hlineError u (List.mem_singleton.mp hl ▸ hu)
        · exact herror l hl u hu
    · rw [messagesAmong_append, messagesAmong_append, hendedMessages, hlineMessages, hmessages,
        List.filterMap_cons]
      cases p.delivered? <;> rfl
    · rw [appLines_append, appLines_append, appLines_of_forall hended, hlineApp, happ, passedOn,
        passedOn, List.flatMap_cons, Passage.passed]
      simp only [List.map_append, List.append_assoc]

/-! ## A conversation about passages -/

variable {σ : Type} {p : Peer σ} {es : List Emission} {rs : List (Except Unheard HostSignal)}
  {d : Dialogue σ}

/-- The messages at the beginning of a line are delivered one by one, and a call gives none only when
all of them are. What is passed on are the other lines. -/
theorem Peer.Talk.delivered (h : p.Talk es rs d) {ps : List Passage} {last : List Char}
    (hwritten : bytesOf es = encode (written ps last)) (hlast : ¬ messageMark <:+: last) :
    let out := Dialogue.next.run d
    let lines := (passedOn ps last d.status.isSome).map String.ofList
    ∃ ahead, ps.filterMap Passage.delivered? = rs.filterMap Except.toOption ++ ahead ∧
      out.1 = ahead.head?.elim (.error d.atEnd) .ok ∧ out.2.relayed <+: lines ∧
      (ahead = [] → out.2.relayed = lines) := by
  obtain ⟨herror, hmessages, happ⟩ := written_read ps hlast d.status.isSome
  have hlines := linesWritten_encode (written ps last) d.status.isSome
  rw [← hwritten] at hlines
  obtain ⟨turns, unread, hsplit, hturns, hunread, hrelayed⟩ := h.turns hlines
  obtain ⟨taken, later, hcut, hreads, hnext⟩ := Dialogue.next_reads hunread
  have htold := messagesAmong_turns hturns
  rw [hsplit] at herror
  rw [hsplit, messagesAmong_append, htold] at hmessages
  rw [hsplit, hcut, ← List.append_assoc, appLines_append] at happ
  have hpassed : (Dialogue.next.run d).2.relayed = appLines (turns.flatten ++ taken) := by
    rw [hnext, hrelayed, appLines_append]
  have htaken : ∀ l ∈ taken, ∀ u, ¬ Answers l (.error u) := by
    intro l hl
    refine herror l (List.mem_append_right _ ?_)
    rw [hcut]
    exact List.mem_append_left _ hl
  refine ⟨messagesAmong unread, hmessages.symm, ?_⟩
  -- the call reads up to a message, or it reads all that is left and finds none
  rcases hreads.first htaken with ⟨m, hout, hfirst⟩ | ⟨hout, hlater, hnone⟩
  · rw [hout, hcut, hfirst, hpassed, ← happ]
    exact ⟨rfl, List.prefix_append _ _, nofun⟩
  · rw [hlater, List.append_nil] at hcut
    have hnil : appLines later = [] := by rw [hlater]; rfl
    rw [hnil, List.append_nil] at happ
    rw [hout, hcut, hnone, hpassed, happ]
    exact ⟨rfl, List.prefix_rfl, fun _ => rfl⟩

/-! ## An app that clears the screen -/

/-- A registry with one handler is published. -/
def greetingPacket : Packet where
  text := (Value.object [("type", .string "loaded"), ("init", .bool false), ("ready", .bool false),
    ("handlers", .array [.string "__h0"])]).print
  signal := .loaded ⟨false, false, ["__h0"]⟩
  reads := by
    have hread := readText_print (.object [("type", .string "loaded"), ("init", .bool false),
      ("ready", .bool false), ("handlers", .array [.string "__h0"])])
    rw [Value.compact, String.toList_ofList] at hread
    rw [Decoder.readText, String.toList_ofList, hread]
    rfl
  feed_notMem := by decide
  no_return := by decide

/-- A handler is done. -/
def donePacket : Packet where
  text := (Value.object [("type", .string "done")]).print
  signal := .done
  reads := by
    have hread := readText_print (.object [("type", .string "done")])
    rw [Value.compact, String.toList_ofList] at hread
    rw [Decoder.readText, String.toList_ofList, hread]
    rfl
  feed_notMem := by decide
  no_return := by decide

/-- The app greets on a line of its own. -/
def greeting : Passage where
  text := "hello\n".toList
  clean := by decide
  packet := greetingPacket

/-- The handler clears the screen. -/
def clearing : Passage where
  text := "\x1b[2J".toList
  clean := by decide
  packet := donePacket

/-- The app greets when it is loaded, and ends once its handler has been called. -/
def screenApp : Peer Unit where
  path := "app"
  start _ _ := pure (.ok ⟨encode (written [greeting] []), none⟩)
  hear _ := pure ⟨encode (written [clearing] []), some 0⟩

/-- Of this app the registry is delivered, and the lines are passed on. -/
theorem screenApp_delivers :
    ∃ es rs, ∃ d : Dialogue Unit, screenApp.Talk es rs d ∧
      bytesOf es = encode (written [greeting, clearing] []) ∧ ¬ messageMark <:+: [] ∧
      let out := Dialogue.next.run d
      let lines := (passedOn [greeting, clearing] [] d.status.isSome).map String.ofList
      ∃ ahead, [greeting, clearing].filterMap Passage.delivered? =
          rs.filterMap Except.toOption ++ ahead ∧
        out.1 = ahead.head?.elim (.error d.atEnd) .ok ∧ out.2.relayed <+: lines ∧
        (ahead = [] → out.2.relayed = lines) := by
  have hgreets : (screenApp.start Disk.empty []).run () =
      (.ok ⟨encode (written [greeting] []), none⟩, ()) := rfl
  have hstart := Peer.Talk.start hgreets
  have htalk := hstart.next.send rfl (.invoke "__h0" none)
  have hpassages : written [greeting, clearing] [] =
      written [greeting] [] ++ written [clearing] [] := by
    simp [written]
  have hbytes : bytesOf [⟨encode (written [greeting] []), none⟩,
      ⟨encode (written [clearing] []), some 0⟩] = encode (written [greeting, clearing] []) := by
    rw [hpassages, encode_append, bytesOf]
    rfl
  have hlast : ¬ messageMark <:+: [] := by decide
  exact ⟨_, _, _, htalk, hbytes, hlast, htalk.delivered hbytes hlast⟩

/-- The handler is done and says so, but the line on which it does was begun by the app: the call gets
no answer, and the message is printed. -/
theorem unfinishedLine_takes_message :
    let loaded := (screenApp.load [] Disk.empty [] ⟨[], "file:///app", "/", none⟩).run (.new ())
    let called := (screenApp.invoke "__h0" none).run loaded.2
    clearing.packet.told? = some .done ∧ loaded.1 = .ok (some ⟨false, false, ["__h0"]⟩) ∧
      called.1 = .error (.protocol "script host exited (exit status: 0)") ∧
      called.2.relayed = ["hello", "\x1b[2J\x01melker \x7b\"type\":\"done\"\x7d"] := by
  refine ⟨rfl, ?_⟩
  decide +kernel

end AppBundle
