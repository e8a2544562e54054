import AppBundle.Proofs.Stack.Frame
import AppBundle.Proofs.Text.Lines

/-!
# Stack traces that are read back

A stack trace is its message with the frames on lines of their own below it, as engines write them. It
is read as that message and those frames (`parse_written`), whatever else the names and files of the
frames hold, if they are legible and no line of the message is taken for a frame.
-/

namespace AppBundle

open AppBundle.Text

/-- A frame as it is written, with the word of a function that awaits if it is one. -/
def StackFrame.written (f : StackFrame) (awaits : Bool) : String :=
  let location := f.file ++ ":" ++ decimal f.line ++ ":" ++ decimal f.column
  "    at " ++ (if awaits then "async " else "") ++
    match f.function with
    | some name => name ++ " (" ++ location ++ ")"
    | none => location

namespace StackTrace

/-- The lines of frames, each of them one of a function that awaits or not. -/
def frameLines (frames : List (StackFrame × Bool)) : List String :=
  frames.map fun (f, awaits) => f.written awaits

/-- A message and the frames below it as they are written, the last line ended or not. -/
def written (message : String) (frames : List (StackFrame × Bool)) (ended : Bool) : String :=
  String.intercalate "\n" (message :: frameLines frames) ++ if ended then "\n" else ""

/-- A frame whose name and file can be told apart and whose numbers are words. -/
structure Readable (f : StackFrame) : Prop where
  legible : Legible (f.function.map String.toList) f.file.toList
  line : f.line ≤ maxWord32
  column : f.column ≤ maxWord32

/-- A text that is a message: it is trimmed, and none of its lines is taken for a frame. -/
structure IsMessage (message : String) : Prop where
  trimmed : trimmed message = message
  no_return : '\r' ∉ message.toList
  no_frame : ∀ l ∈ pieces message.toList, ¬ FrameForm l

/-! ## Frames -/

theorem digits_numeral (n : Nat) : Digits (numeral n) := by
  refine ⟨Nat.toDigits_ne_nil, fun c hc => ?_⟩
  have hdigit := isDigit_of_mem_numeral hc
  have hsmall : c.toNat < 128 := by
    simp only [Char.isDigit, Bool.and_eq_true, decide_eq_true_eq] at hdigit
    have hle : c.toNat ≤ '9'.toNat := hdigit.2
    exact Nat.lt_of_le_of_lt hle (by decide)
  rw [isDecimal, if_pos hsmall, hdigit]

/-- The characters of a frame. -/
theorem toList_written (f : StackFrame) (awaits : Bool) :
    ∃ awaiting closing, (f.written awaits).toList = [' ', ' ', ' ', ' '] ++ atWord ++ [' '] ++
        (awaiting ++ calleeText (f.function.map String.toList) f.file.toList) ++
          ':' :: numeral f.line ++ ':' :: numeral f.column ++ closing ∧
      (awaiting = [] ∨ ∃ gap, Blanks gap ∧ awaiting = asyncWord ++ gap) ∧
      (closing = [] ∨ closing = [')']) := by
  refine ⟨if awaits then asyncWord ++ [' '] else [],
    if f.function.isSome then [')'] else [], ?_, ?_, ?_⟩
  · obtain ⟨function, file, line, column⟩ := f
    cases awaits <;> cases function <;>
      simp [StackFrame.written, calleeText, decimal, atWord, asyncWord]
  · cases awaits with
    | true => exact .inr ⟨[' '], ⟨by decide, List.all_eq_true.mp (by decide)⟩, rfl⟩
    | false => exact .inl rfl
  · cases f.function with
    | some name => exact .inr rfl
    | none => exact .inl rfl

theorem readLine_written {f : StackFrame} (h : Readable f) (awaits : Bool) :
    readLine (f.written awaits) = .frame f := by
  obtain ⟨awaiting, closing, hchars, hawaiting, hclosing⟩ := toList_written f awaits
  have hindent : ∀ c ∈ [' ', ' ', ' ', ' '], isBlank c = true := List.all_eq_true.mp (by decide)
  have hgap : Blanks [' '] := ⟨by decide, List.all_eq_true.mp (by decide)⟩
  have hsplit := splitFrame?_calleeText h.legible hindent hgap hawaiting (digits_numeral f.line)
    (digits_numeral f.column) hclosing
  rw [readLine, hchars, hsplit]
  simp only [word32?_numeral h.line, word32?_numeral h.column]
  obtain ⟨function, file, line, column⟩ := f
  cases function <;> simp

/-- A frame is on one line. -/
theorem oneLine_written {f : StackFrame} (h : Readable f) (awaits : Bool) :
    OneLine (f.written awaits) := by
  have hfile : OneLine f.file := h.legible.tidy_file.feed_notMem
  have hlocation : OneLine (f.file ++ ":" ++ decimal f.line ++ ":" ++ decimal f.column) := by
    have hcolon : OneLine ":" := .ofChars (by decide)
    simp only [OneLine.append_iff, OneLine.decimal, hfile, hcolon, and_self]
  rw [StackFrame.written, OneLine.append_iff, OneLine.append_iff]
  refine ⟨⟨.ofChars (by decide), ?_⟩, ?_⟩
  · cases awaits <;> exact .ofChars (by decide)
  · cases hfunction : f.function with
    | none => exact hlocation
    | some name =>
      have hname : OneLine name := by
        have htidy := h.legible.tidy_name
        rw [hfunction] at htidy
        exact (htidy _ rfl).feed_notMem
      simp only [OneLine.append_iff] at hlocation ⊢
      exact ⟨⟨⟨hname, .ofChars (by decide)⟩, hlocation⟩, .ofChars (by decide)⟩

theorem written_ne_empty (f : StackFrame) (awaits : Bool) : (f.written awaits).toList ≠ [] := by
  obtain ⟨awaiting, closing, hchars, -, -⟩ := toList_written f awaits
  rw [hchars]
  simp

/-- A frame ends in a digit or in a parenthesis. -/
theorem getLast?_written (f : StackFrame) (awaits : Bool) :
    (f.written awaits).toList.getLast? ≠ some '\r' := by
  have hreturn : '\r' ∉ numeral f.column := fun h =>
    absurd (isDigit_of_mem_numeral h) (by decide)
  obtain ⟨awaiting, closing, hchars, -, hclosing⟩ := toList_written f awaits
  rw [hchars]
  rcases hclosing with rfl | rfl
  · rw [List.append_nil, List.getLast?_append_of_ne_nil _ (List.cons_ne_nil _ _)]
    intro h
    rcases List.mem_cons.mp (List.mem_of_mem_getLast? h) with hcolon | hmem
    · exact absurd hcolon (by decide)
    · exact hreturn hmem
  · rw [List.getLast?_concat]
    simp

/-! ## Traces -/

variable {message : String} {frames : List (StackFrame × Bool)}

theorem mem_frameLines {s : String} (h : s ∈ frameLines frames) :
    ∃ x ∈ frames, s = x.1.written x.2 := by
  obtain ⟨x, hx, rfl⟩ := List.mem_map.mp h
  exact ⟨x, hx, rfl⟩

theorem IsMessage.no_return_piece (h : IsMessage message) {p : List Char}
    (hp : p ∈ pieces message.toList) : p.getLast? ≠ some '\r' := by
  intro hlast
  exact h.no_return (mem_of_mem_split hp (List.mem_of_mem_getLast? hlast))

/-- A message has no empty line at its end, unless it is empty. -/
theorem IsMessage.eq_empty (h : IsMessage message) {front : List (List Char)}
    (hpieces : pieces message.toList = front ++ [[]]) : message = "" ∧ front = [] := by
  have hunlines : message.toList = unlines front := by
    have hwhole := unlines_pieces message.toList
    rw [hpieces, unlines_append] at hwhole
    exact (List.append_inj_left' hwhole rfl).symm
  rcases List.eq_nil_or_concat' front with rfl | ⟨front, l, rfl⟩
  · exact ⟨String.toList_eq_nil_iff.mp hunlines, rfl⟩
  · -- its last character is a line feed, which trimming takes off
    have hlast : message.toList.getLast? = some '\n' := by
      rw [hunlines, unlines_append]
      simp [unlines]
    have htrim : (trim message.toList).getLast? = some '\n' := by
      rw [← hlast, ← String.toList_ofList (l := trim message.toList), ← AppBundle.trimmed, h.trimmed]
    rw [trim, trimRight, List.getLast?_reverse] at htrim
    have hblank := List.head?_dropWhile_not isBlank (trimLeft isBlank message.toList).reverse
    rw [htrim] at hblank
    exact absurd hblank (by decide)

theorem pieces_message_frames (message : String) (hframes : ∀ x ∈ frames, Readable x.1) :
    pieces (String.intercalate "\n" (message :: frameLines frames)).toList =
      pieces message.toList ++ (frameLines frames).map String.toList := by
  refine pieces_intercalate (fun s hs => ?_) message
  obtain ⟨x, hx, rfl⟩ := mem_frameLines hs
  exact oneLine_written (hframes x hx) x.2

theorem IsMessage.no_return_trace (hmessage : IsMessage message)
    (frames : List (StackFrame × Bool)) :
    ∀ p ∈ pieces message.toList ++ (frameLines frames).map String.toList,
      p.getLast? ≠ some '\r' := by
  intro p hp
  rcases List.mem_append.mp hp with hp | hp
  · exact hmessage.no_return_piece hp
  · obtain ⟨s, hs, rfl⟩ := List.mem_map.mp hp
    obtain ⟨x, -, rfl⟩ := mem_frameLines hs
    exact getLast?_written x.1 x.2

/-- An empty line at the end is none of a frame. -/
theorem frameLines_eq_nil {texts front : List (List Char)}
    (h : texts ++ (frameLines frames).map String.toList = front ++ [[]]) :
    frameLines frames = [] := by
  rcases List.eq_nil_or_concat' (frameLines frames) with hnil | ⟨lines, s, hs⟩
  · exact hnil
  · rw [hs, List.map_append, List.map_singleton, ← List.append_assoc] at h
    obtain ⟨x, -, rfl⟩ := mem_frameLines (s := s) (by rw [hs]; simp)
    exact absurd (List.singleton_inj.mp (List.append_inj' h rfl).2) (written_ne_empty x.1 x.2)

/-- The lines of a trace are those of its message and its frames. A message that is empty may have no
line. -/
theorem lines_written (hmessage : IsMessage message) (hframes : ∀ x ∈ frames, Readable x.1)
    (ended : Bool) :
    ∃ texts, stringLines (written message frames ended) = texts ++ frameLines frames ∧
      (texts = (pieces message.toList).map String.ofList ∨ texts = [] ∧ message = "") := by
  have hpieces := pieces_message_frames message hframes
  have hreturn := hmessage.no_return_trace frames
  have hstrings : (pieces message.toList ++ (frameLines frames).map String.toList).map
      String.ofList = (pieces message.toList).map String.ofList ++ frameLines frames := by
    simp
  cases ended with
  | true =>
    refine ⟨_, ?_, .inl rfl⟩
    have hfeed : (if true then "\n" else "").toList = ['\n'] := by decide
    have hlines := linesOfPieces_concat hreturn []
    rw [stringLines, written, String.toList_append, hfeed, lines, pieces, split_append_cons,
      ← pieces, hpieces, split, hlines, ← hstrings]
    simp
  | false =>
    have hwhole : pieces (written message frames false).toList =
        pieces message.toList ++ (frameLines frames).map String.toList := by
      rw [← hpieces, written]
      simp
    rw [stringLines, lines, hwhole]
    rcases List.eq_nil_or_concat' (pieces message.toList ++ (frameLines frames).map String.toList)
      with hnil | ⟨front, last, hconcat⟩
    · exact absurd (List.append_eq_nil_iff.mp hnil).1 (split_ne_nil _ _)
    · have hfront := linesOfPieces_concat (fun p (hp : p ∈ front) => hreturn p (by
        rw [hconcat]
        exact List.mem_append_left _ hp)) last
      by_cases hlast : last = []
      · -- the last line is empty, so it is none of a frame
        subst hlast
        have hnone := frameLines_eq_nil hconcat
        rw [hnone, List.map_nil, List.append_nil] at hconcat ⊢
        obtain ⟨hempty, rfl⟩ := hmessage.eq_empty hconcat
        refine ⟨[], ?_, .inr ⟨rfl, hempty⟩⟩
        rw [hconcat, hfront]
        rfl
      · refine ⟨_, ?_, .inl rfl⟩
        rw [← hstrings, hconcat, hfront, if_neg (by simpa using hlast)]

/-! ## Reading a trace -/

theorem readLine_piece (hmessage : IsMessage message) {p : List Char}
    (hp : p ∈ pieces message.toList) : readLine (String.ofList p) = .text (String.ofList p) := by
  have hnone : splitFrame? p = none := by
    rw [← Option.not_isSome_iff_eq_none, isSome_splitFrame?_iff]
    exact hmessage.no_frame p hp
  rw [readLine, String.toList_ofList, hnone]

theorem framesOf_append (texts : List String) (frames : List StackFrame) :
    framesOf (texts.map .text ++ frames.map .frame) = frames := by
  induction texts with
  | nil =>
    induction frames with
    | nil => rfl
    | cons f frames ih => exact congrArg (f :: ·) ih
  | cons s texts ih => exact ih

theorem messageLines_append (texts : List String) (frames : List StackFrame) :
    messageLines (texts.map .text ++ frames.map .frame) = texts := by
  induction texts with
  | nil => cases frames <;> rfl
  | cons s texts ih => exact congrArg (s :: ·) ih

/-- A trace is read as its message and its frames. -/
theorem parse_written (hmessage : IsMessage message) (hframes : ∀ x ∈ frames, Readable x.1)
    (ended : Bool) :
    parse (written message frames ended) = ⟨message, frames.map (·.1)⟩ := by
  obtain ⟨texts, hlines, htexts⟩ := lines_written hmessage hframes ended
  have hread : (stringLines (written message frames ended)).map readLine =
      texts.map .text ++ (frames.map (·.1)).map .frame := by
    rw [hlines, List.map_append]
    congr 1
    · refine List.map_congr_left fun s hs => ?_
      rcases htexts with rfl | ⟨rfl, -⟩
      · obtain ⟨p, hp, rfl⟩ := List.mem_map.mp hs
        exact readLine_piece hmessage hp
      · exact absurd hs List.not_mem_nil
    · rw [frameLines, List.map_map, List.map_map]
      exact List.map_congr_left fun x hx => readLine_written (hframes x hx) x.2
  have hmessage' : trimmed (String.intercalate "\n" texts) = message := by
    rcases htexts with rfl | ⟨rfl, hempty⟩
    · rw [intercalate_pieces, hmessage.trimmed]
    · rw [hempty]
      rfl
  rw [parse, hread]
  simp only [messageLines_append, framesOf_append, hmessage']

/-- A message of two lines. -/
def rangeMessage : String := "RangeError: out of range\n at (12:34"

/-- A function that awaits in a file whose name looks like a location, and a frame without a name. -/
def rangeFrames : List (StackFrame × Bool) := [
  (⟨some "asyncJob", "C:\\apps (2)\\a.ts:10:7)", 3, 4294967295⟩, true),
  (⟨none, "file:///b(1).ts:8", 1, 0⟩, false)]

theorem isMessage_rangeMessage : IsMessage rangeMessage where
  trimmed := by decide +kernel
  no_return := by decide +kernel
  no_frame := by decide +kernel

theorem readable_rangeFrames : ∀ x ∈ rangeFrames, Readable x.1 := by
  have hjob : Unmarked "asyncJob".toList := by
    refine ⟨by decide, fun c hc hprefix => ?_, by decide⟩
    obtain ⟨rest, hrest⟩ := hprefix
    obtain rfl : c = 'J' := congrArg (·.getD 5 'J') hrest
    exact absurd hc (by decide)
  have hfile : Unmarked "file:///b(1).ts:8".toList := by
    refine ⟨by decide, fun c _ hprefix => ?_, by decide⟩
    exact absurd ((List.prefix_append asyncWord [c]).trans hprefix) (by decide)
  intro x hx
  simp only [rangeFrames, List.mem_cons, List.not_mem_nil, or_false] at hx
  rcases hx with rfl | rfl
  · refine ⟨⟨.of_edges (by decide) (by decide) (by decide) (by decide), ?_, hjob⟩, by decide,
      by decide⟩
    intro cs hcs
    obtain rfl := Option.some.inj hcs
    exact .of_edges (by decide) (by decide) (by decide) (by decide)
  · refine ⟨⟨.of_edges (by decide) (by decide) (by decide) (by decide), ?_, hfile⟩, by decide,
      by decide⟩
    intro cs hcs
    exact absurd hcs (by simp)

theorem parse_rangeFrames :
    IsMessage rangeMessage ∧ (∀ x ∈ rangeFrames, Readable x.1) ∧
      parse (written rangeMessage rangeFrames false) =
        ⟨rangeMessage, rangeFrames.map (·.1)⟩ :=
  ⟨isMessage_rangeMessage, readable_rangeFrames,
    parse_written isMessage_rangeMessage readable_rangeFrames false⟩

end StackTrace

end AppBundle
