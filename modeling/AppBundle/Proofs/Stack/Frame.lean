import AppBundle.Proofs.Text.Search
import AppBundle.Stack
import Mathlib.Data.List.Chain

/-!
# The form of frames

A line is taken for a frame if it has the form of one (`isSome_splitFrame?_iff`): the word `at`, the
word `async` if it is there, a name with an opening parenthesis if they are there, a file that may
hold anything, a line, a column, and a closing parenthesis if it is there.

A line may have this form in more than one way. The location is the last one in the line, the word
`async` is never left to the name, and the name ends at the first parenthesis that opens behind a
blank. So a name and a file are read as they stand there if they give no other chance to any of these
(`splitFrame?_calleeText`).
-/

namespace AppBundle.StackTrace

open AppBundle.Text

/-- At least one character, and all of them blank. -/
def Blanks (cs : List Char) : Prop :=
  cs ≠ [] ∧ ∀ c ∈ cs, isBlank c = true

/-- At least one character, and all of them digits. -/
def Digits (cs : List Char) : Prop :=
  cs ≠ [] ∧ ∀ c ∈ cs, isDecimal c = true

/-- The text has the form of a frame. -/
inductive FrameForm : List Char → Prop
  | mk {indent gap awaiting callee file line column closing trailing : List Char}
      (hindent : ∀ c ∈ indent, isBlank c = true) (hgap : Blanks gap)
      (hawaiting : awaiting = [] ∨ ∃ gap', Blanks gap' ∧ awaiting = asyncWord ++ gap')
      (hcallee : callee = [] ∨
        ∃ name gap', name ≠ [] ∧ Blanks gap' ∧ callee = name ++ gap' ++ ['('])
      (hfile : file ≠ []) (hline : Digits line) (hcolumn : Digits column)
      (hclosing : closing = [] ∨ closing = [')'])
      (htrailing : ∀ c ∈ trailing, isBlank c = true) :
      FrameForm (indent ++ atWord ++ gap ++ awaiting ++ callee ++ file ++ ':' :: line ++
        ':' :: column ++ closing ++ trailing)

variable {cs head gap body line column closing trailing rest : List Char}

/-! ## Blanks and digits -/

/-- No digit is blank. -/
theorem isBlank_of_isDecimal {c : Char} (h : isDecimal c = true) : isBlank c = false := by
  have hnone : ∀ n ∈ blankCodes, (!isDecimal (Char.ofNat n)) = true := by decide +kernel
  by_contra hblank
  have hdigit := of_isBlank (p := (!isDecimal ·)) hnone (Bool.not_eq_false _ ▸ hblank)
  simp [h] at hdigit

/-- Digits in front of a colon are read from its other side. -/
theorem splitNumber?_eq_some_iff {reversed digits : List Char} :
    splitNumber? reversed = some (rest, digits) ↔
      reversed = digits ++ ':' :: rest ∧ Digits digits := by
  have hcolon : isDecimal ':' = false := by decide
  constructor
  · intro h
    rw [splitNumber?] at h
    split at h
    · exact absurd h (by simp)
    · next hdrop hne =>
      obtain ⟨rfl, rfl⟩ := Prod.mk.inj (Option.some.inj h)
      obtain ⟨heq, hall, -⟩ := eq_append_of_dropWhile hdrop
      exact ⟨heq, hne, hall⟩
    · exact absurd h (by simp)
  · rintro ⟨rfl, hne, hall⟩
    rw [splitNumber?, takeWhile_append_stop hall hcolon, dropWhile_append_stop hall hcolon]
    cases digits with
    | nil => exact absurd rfl hne
    | cons d ds => rfl

theorem Digits.reverse (h : Digits cs) : Digits cs.reverse :=
  ⟨by simpa using h.1, fun c hc => h.2 c (List.mem_reverse.mp hc)⟩

/-! ## The location -/

/-- A line from its end, without its blanks and its parenthesis. -/
def reversedLocation (cs : List Char) : List Char :=
  let reversed := cs.reverse.dropWhile isBlank
  match reversed with
  | ')' :: rest => rest
  | _ => reversed

theorem exists_closing (cs : List Char) :
    ∃ closing trailing, cs = (reversedLocation cs).reverse ++ closing ++ trailing ∧
      (closing = [] ∨ closing = [')']) ∧ ∀ c ∈ trailing, isBlank c = true := by
  have htrailing : ∀ c ∈ (cs.reverse.takeWhile isBlank).reverse, isBlank c = true := fun c hc =>
    List.mem_takeWhile_imp (List.mem_reverse.mp hc)
  have hcs : cs = (cs.reverse.dropWhile isBlank).reverse ++
      (cs.reverse.takeWhile isBlank).reverse := by
    rw [← List.reverse_append, List.takeWhile_append_dropWhile, List.reverse_reverse]
  rw [reversedLocation]
  split
  · next rest hrest =>
    refine ⟨[')'], _, ?_, .inr rfl, htrailing⟩
    rw [hrest, List.reverse_cons] at hcs
    exact hcs
  · refine ⟨[], _, ?_, .inl rfl, htrailing⟩
    rw [List.append_nil]
    exact hcs

theorem reversedLocation_append (hcolumn : Digits column) (hclosing : closing = [] ∨ closing = [')'])
    (htrailing : ∀ c ∈ trailing, isBlank c = true) (front : List Char) :
    reversedLocation (front ++ column ++ closing ++ trailing) =
      column.reverse ++ front.reverse := by
  have hblanks : ∀ c ∈ trailing.reverse, isBlank c = true := fun c hc =>
    htrailing c (List.mem_reverse.mp hc)
  obtain ⟨hne, hall⟩ := hcolumn.reverse
  rw [reversedLocation, List.reverse_append, List.reverse_append, List.reverse_append]
  rcases hclosing with rfl | rfl
  · cases hreversed : column.reverse with
    | nil => exact absurd hreversed hne
    | cons d ds =>
      have hd : isDecimal d = true := hall d (by rw [hreversed]; exact List.mem_cons_self)
      rw [List.reverse_nil, List.nil_append, List.cons_append,
        dropWhile_append_stop hblanks (isBlank_of_isDecimal hd)]
      split
      · next heq =>
        obtain ⟨rfl, -⟩ := List.cons.inj heq
        exact absurd hd (by decide)
      · rfl
  · rw [List.reverse_singleton, List.singleton_append,
      dropWhile_append_stop hblanks (by decide)]
    rfl

/-- The location is what stands last in a line, but for a closing parenthesis and blanks. -/
theorem splitLocation?_eq_some_iff :
    splitLocation? cs = some (head, line, column) ↔
      ∃ closing trailing, cs = head ++ ':' :: line ++ ':' :: column ++ closing ++ trailing ∧
        Digits line ∧ Digits column ∧ (closing = [] ∨ closing = [')']) ∧
        ∀ c ∈ trailing, isBlank c = true := by
  have hsplit : splitLocation? cs = (splitNumber? (reversedLocation cs)).bind fun last =>
      (splitNumber? last.1).bind fun first =>
        some (first.1.reverse, first.2.reverse, last.2.reverse) := rfl
  rw [hsplit]
  constructor
  · -- the numbers were read off the reversed line
    intro h
    obtain ⟨⟨r, ds⟩, hcolumn, h⟩ := Option.bind_eq_some_iff.mp h
    obtain ⟨⟨r', ds'⟩, hline, h⟩ := Option.bind_eq_some_iff.mp h
    simp only [Option.some.injEq, Prod.mk.injEq] at h
    obtain ⟨rfl, rfl, rfl⟩ := h
    obtain ⟨hr, hds⟩ := splitNumber?_eq_some_iff.mp hcolumn
    obtain ⟨rfl, hds'⟩ := splitNumber?_eq_some_iff.mp hline
    obtain ⟨closing, trailing, hcs, hends⟩ := exists_closing cs
    refine ⟨closing, trailing, ?_, hds'.reverse, hds.reverse, hends⟩
    rw [hr] at hcs
    simpa using hcs
  · -- the reversed line gives its numbers one after the other
    rintro ⟨closing, trailing, rfl, hline, hcolumn, hclosing, htrailing⟩
    have hreversed := reversedLocation_append hcolumn hclosing htrailing
      (head ++ ':' :: line ++ [':'])
    have hcolumn' : splitNumber? (column.reverse ++ ':' :: (line.reverse ++ ':' :: head.reverse)) =
        some (line.reverse ++ ':' :: head.reverse, column.reverse) :=
      splitNumber?_eq_some_iff.mpr ⟨rfl, hcolumn.reverse⟩
    have hline' : splitNumber? (line.reverse ++ ':' :: head.reverse) =
        some (head.reverse, line.reverse) :=
      splitNumber?_eq_some_iff.mpr ⟨rfl, hline.reverse⟩
    simp only [List.append_assoc, List.cons_append, List.nil_append, List.reverse_append,
      List.reverse_cons, List.reverse_nil] at hreversed ⊢
    rw [hreversed, hcolumn']
    simp only [Option.bind_some, hline', List.reverse_reverse]

/-! ## Words -/

/-- The text behind blanks, which is never empty, stands behind at least one of them. -/
theorem isSome_afterBlanks?_iff :
    (afterBlanks? cs).isSome ↔ ∃ gap rest, cs = gap ++ rest ∧ Blanks gap ∧ rest ≠ [] := by
  have hcs : cs.takeWhile isBlank ++ cs.dropWhile isBlank = cs := List.takeWhile_append_dropWhile
  have hblank : ∀ c ∈ cs.takeWhile isBlank, isBlank c = true := fun c hc =>
    List.mem_takeWhile_imp hc
  rw [afterBlanks?]
  split
  · next hnone =>
    rw [hnone, List.nil_append] at hcs
    refine ⟨fun h => absurd h (by simp), ?_⟩
    rintro ⟨gap, rest, heq, ⟨hne, hall⟩, -⟩
    cases gap with
    | nil => exact absurd rfl hne
    | cons b gap =>
      rw [heq, List.cons_append, List.takeWhile_cons_of_pos (hall b List.mem_cons_self)] at hnone
      exact absurd hnone (by simp)
  · next hnil hne =>
    rw [hnil, List.append_nil] at hcs
    rw [hcs] at hblank ⊢
    have hsome : (if 1 < cs.length then some (cs.drop (cs.length - 1)) else none).isSome ↔
        1 < cs.length := by
      split <;> simp [*]
    rw [hsome]
    constructor
    · intro hlength
      refine ⟨cs.take 1, cs.drop 1, (List.take_append_drop 1 cs).symm, ⟨?_, ?_⟩, ?_⟩
      · exact List.ne_nil_of_length_pos (by rw [List.length_take]; omega)
      · exact fun c hc => hblank c (List.mem_of_mem_take hc)
      · exact List.ne_nil_of_length_pos (by rw [List.length_drop]; omega)
    · rintro ⟨gap, rest, rfl, ⟨hgap, -⟩, hrest⟩
      have hgap' := List.length_pos_iff.mpr hgap
      have hrest' := List.length_pos_iff.mpr hrest
      rw [List.length_append]
      omega
  · next hne hrest =>
    exact ⟨fun _ => ⟨_, _, hcs.symm, ⟨hne, hblank⟩, hrest⟩, fun _ => rfl⟩

theorem afterBlanks?_append {c : Char} (hgap : Blanks gap) (hc : isBlank c = false)
    (rest : List Char) : afterBlanks? (gap ++ c :: rest) = some (c :: rest) := by
  obtain ⟨hne, hall⟩ := hgap
  rw [afterBlanks?, takeWhile_append_stop hall hc, dropWhile_append_stop hall hc]
  cases gap with
  | nil => exact absurd rfl hne
  | cons b bs => rfl

/-- The text behind the word of a frame, and its location. -/
theorem splitFrame?_eq_some_iff {callee : Option (List Char) × List Char} :
    splitFrame? cs = some (callee, line, column) ↔ ∃ head gap rest,
      splitLocation? cs = some (head, line, column) ∧ head.dropWhile isBlank = atWord ++ gap ∧
        afterBlanks? gap = some rest ∧ callee = splitCallee (dropAsync rest) := by
  have hsplit : splitFrame? cs = (splitLocation? cs).bind fun location =>
      (after? atWord (location.1.dropWhile isBlank)).bind fun gap =>
        (afterBlanks? gap).bind fun rest => some (splitCallee (dropAsync rest), location.2) := rfl
  rw [hsplit]
  constructor
  · intro h
    obtain ⟨⟨head, line', column'⟩, hlocation, h⟩ := Option.bind_eq_some_iff.mp h
    obtain ⟨gap, hword, h⟩ := Option.bind_eq_some_iff.mp h
    obtain ⟨rest, hrest, h⟩ := Option.bind_eq_some_iff.mp h
    simp only [Option.some.injEq, Prod.mk.injEq] at h
    obtain ⟨rfl, rfl, rfl⟩ := h
    exact ⟨head, gap, rest, hlocation, after?_eq_some_iff.mp hword, hrest, rfl⟩
  · rintro ⟨head, gap, rest, hlocation, hword, hrest, rfl⟩
    simp only [hlocation, Option.bind_some, hword, after?_append, hrest]

theorem dropWhile_word {indent : List Char} (hindent : ∀ c ∈ indent, isBlank c = true)
    (rest : List Char) : (indent ++ atWord ++ rest).dropWhile isBlank = atWord ++ rest := by
  rw [List.append_assoc]
  exact dropWhile_append_stop hindent (by decide) ('t' :: rest)

/-- A line is taken for a frame if it has the form of one. -/
theorem isSome_splitFrame?_iff : (splitFrame? cs).isSome ↔ FrameForm cs := by
  constructor
  · intro h
    obtain ⟨⟨callee, line, column⟩, h⟩ := Option.isSome_iff_exists.mp h
    obtain ⟨head, gap, rest, hlocation, hword, hrest, -⟩ := splitFrame?_eq_some_iff.mp h
    obtain ⟨closing, trailing, rfl, hline, hcolumn, hclosing, htrailing⟩ :=
      splitLocation?_eq_some_iff.mp hlocation
    obtain ⟨blanks, file, rfl, hblanks, hfile⟩ :=
      isSome_afterBlanks?_iff.mp (Option.isSome_of_mem hrest)
    -- nothing has to be told apart in front of the location, so all of it may be the file
    have hhead : head = head.takeWhile isBlank ++ atWord ++ blanks ++ [] ++ [] ++ file := by
      rw [List.append_nil, List.append_nil, List.append_assoc, List.append_assoc, ← hword,
        List.takeWhile_append_dropWhile]
    rw [hhead]
    exact .mk (fun c hc => List.mem_takeWhile_imp hc) hblanks (.inl rfl) (.inl rfl) hfile hline
      hcolumn hclosing htrailing
  · intro h
    cases h with
    | @mk indent gap awaiting callee file line column closing trailing hindent hgap hawaiting
        hcallee hfile hline hcolumn hclosing htrailing =>
      have hlocation : splitLocation? (indent ++ atWord ++ gap ++ awaiting ++ callee ++ file ++
          ':' :: line ++ ':' :: column ++ closing ++ trailing) = some (_, line, column) :=
        splitLocation?_eq_some_iff.mpr
          ⟨closing, trailing, rfl, hline, hcolumn, hclosing, htrailing⟩
      have hbody : (afterBlanks? (gap ++ (awaiting ++ callee ++ file))).isSome :=
        isSome_afterBlanks?_iff.mpr ⟨gap, _, rfl, hgap, by simp [hfile]⟩
      obtain ⟨rest, hrest⟩ := Option.isSome_iff_exists.mp hbody
      have hword := dropWhile_word hindent (gap ++ (awaiting ++ callee ++ file))
      simp only [List.append_assoc] at hword hrest hlocation ⊢
      exact Option.isSome_of_mem
        (splitFrame?_eq_some_iff.mpr ⟨_, _, rest, hlocation, hword, hrest, rfl⟩)

instance : DecidablePred FrameForm := fun _ => decidable_of_iff _ isSome_splitFrame?_iff

/-- What stands behind the word of a frame, if it does not begin with a blank. -/
theorem splitFrame?_of_body {indent : List Char} {c : Char}
    (hindent : ∀ c ∈ indent, isBlank c = true) (hgap : Blanks gap) (hc : isBlank c = false)
    (hline : Digits line) (hcolumn : Digits column) (hclosing : closing = [] ∨ closing = [')']) :
    splitFrame? (indent ++ atWord ++ gap ++ c :: body ++ ':' :: line ++ ':' :: column ++ closing) =
      some (splitCallee (dropAsync (c :: body)), line, column) := by
  refine splitFrame?_eq_some_iff.mpr ⟨indent ++ atWord ++ gap ++ c :: body, gap ++ c :: body, _,
    splitLocation?_eq_some_iff.mpr ⟨closing, [], ?_, hline, hcolumn, hclosing, by simp⟩, ?_,
    afterBlanks?_append hgap hc body, rfl⟩
  · rw [List.append_nil]
  · rw [List.append_assoc _ gap]
    exact dropWhile_word hindent _

/-! ## Names and files -/

/-- There is something of the text, all on one line, and no blanks are at its edges. -/
structure Tidy (cs : List Char) : Prop where
  ne_nil : cs ≠ []
  feed_notMem : '\n' ∉ cs
  head : ∀ c ∈ cs.head?, isBlank c = false
  last : ∀ c ∈ cs.getLast?, isBlank c = false

theorem Tidy.of_edges {cs : List Char} (hne : cs ≠ []) (hfeed : '\n' ∉ cs)
    (hhead : cs.head?.all (!isBlank ·) = true) (hlast : cs.getLast?.all (!isBlank ·) = true) :
    Tidy cs where
  ne_nil := hne
  feed_notMem := hfeed
  head c hc := by simpa [Option.mem_def.mp hc] using hhead
  last c hc := by simpa [Option.mem_def.mp hc] using hlast

/-- The text is neither taken for the word of a function that awaits, nor does a parenthesis open
in it behind a blank. -/
structure Unmarked (cs : List Char) : Prop where
  ne_async : cs ≠ asyncWord
  not_awaiting : ∀ c, isBlank c = true → ¬ (asyncWord ++ [c]) <+: cs
  not_calling : cs.IsChain fun c d => isBlank c = true → d ≠ '('

/-- A word that awaits is taken off. -/
theorem dropAsync_append {c : Char} (hgap : Blanks gap) (hc : isBlank c = false)
    (rest : List Char) : dropAsync (asyncWord ++ (gap ++ c :: rest)) = c :: rest := by
  rw [dropAsync, after?_append, Option.bind_some, afterBlanks?_append hgap hc]
  rfl

/-- Nothing is taken off where no such word stands. -/
theorem dropAsync_of_forall (h : ∀ c, isBlank c = true → ¬ (asyncWord ++ [c]) <+: cs) :
    dropAsync cs = cs := by
  rw [dropAsync]
  cases hafter : after? asyncWord cs with
  | none => rfl
  | some rest =>
    obtain rfl := after?_eq_some_iff.mp hafter
    have hnone : afterBlanks? rest = none := by
      rw [← Option.not_isSome_iff_eq_none, isSome_afterBlanks?_iff]
      rintro ⟨gap, back, rfl, ⟨hne, hall⟩, -⟩
      cases gap with
      | nil => exact hne rfl
      | cons b gap =>
        refine h b (hall b List.mem_cons_self) ?_
        exact ⟨gap ++ back, by simp⟩
    rw [Option.bind_some, hnone]
    rfl

/-- No parenthesis opens behind a blank as long as there is something left of such a text. -/
theorem afterOpening?_append (hne : cs ≠ []) (hlast : ∀ c ∈ cs.getLast?, isBlank c = false)
    (hcalling : cs.IsChain fun c d => isBlank c = true → d ≠ '(') (back : List Char) :
    afterOpening? (cs ++ back) = none := by
  cases cs with
  | nil => exact absurd rfl hne
  | cons b cs =>
    rw [List.cons_append, afterOpening?]
    split
    · next hb =>
      induction cs generalizing b with
      | nil =>
        have hblank := hlast b rfl
        rw [hb] at hblank
        exact absurd hblank (by simp)
      | cons d cs ih =>
        rw [List.getLast?_cons_cons] at hlast
        rw [List.isChain_cons_cons] at hcalling
        obtain ⟨hd, hcalling⟩ := hcalling
        rw [List.dropWhile_cons_of_pos hb]
        by_cases hblank : isBlank d = true
        · exact ih d (List.cons_ne_nil _ _) hlast hcalling hblank
        · rw [List.cons_append, List.dropWhile_cons_of_neg hblank]
          split
          · next heq => exact absurd (List.cons.inj heq).1 (hd hb)
          · rfl
    · rfl

/-- A name is what stands in front of the first parenthesis that opens behind a blank. -/
theorem splitName?_append (hne : cs ≠ []) (hlast : ∀ c ∈ cs.getLast?, isBlank c = false)
    (hcalling : cs.IsChain fun c d => isBlank c = true → d ≠ '(') (hfile : rest ≠ [])
    (seen : List Char) :
    splitName? seen (cs ++ ' ' :: '(' :: rest) = some (seen.reverse ++ cs, rest) := by
  induction cs generalizing seen with
  | nil => exact absurd rfl hne
  | cons c cs ih =>
    rw [List.cons_append, splitName?]
    cases cs with
    | nil =>
      have hopening : afterOpening? (' ' :: '(' :: rest) = some rest := by rfl
      cases rest with
      | nil => exact absurd rfl hfile
      | cons f rest => simp [hopening]
    | cons d cs =>
      rw [List.getLast?_cons_cons] at hlast
      have hcalling' := (List.isChain_cons_cons.mp hcalling).2
      have hopening := afterOpening?_append (List.cons_ne_nil d cs) hlast hcalling'
        (' ' :: '(' :: rest)
      rw [hopening, ih (List.cons_ne_nil d cs) hlast hcalling']
      simp

theorem splitName?_eq_none (hlast : ∀ c ∈ cs.getLast?, isBlank c = false)
    (hcalling : cs.IsChain fun c d => isBlank c = true → d ≠ '(') (seen : List Char) :
    splitName? seen cs = none := by
  induction cs generalizing seen with
  | nil => rfl
  | cons c cs ih =>
    rw [splitName?]
    cases cs with
    | nil => rfl
    | cons d cs =>
      rw [List.getLast?_cons_cons] at hlast
      have hcalling' := (List.isChain_cons_cons.mp hcalling).2
      have hopening := afterOpening?_append (List.cons_ne_nil d cs) hlast hcalling' []
      rw [List.append_nil] at hopening
      rw [hopening, ih hlast hcalling']

/-- What stands in front of the location of a frame: its file, behind its name and a parenthesis if
it has a name. -/
def calleeText (name : Option (List Char)) (file : List Char) : List Char :=
  match name with
  | some name => name ++ ' ' :: '(' :: file
  | none => file

/-- A name and a file that can be told apart where they stand in a frame. -/
structure Legible (name : Option (List Char)) (file : List Char) : Prop where
  tidy_file : Tidy file
  tidy_name : ∀ cs ∈ name, Tidy cs
  unmarked : Unmarked (name.getD file)

variable {name : Option (List Char)} {file : List Char}

theorem splitCallee_calleeText (h : Legible name file) :
    splitCallee (calleeText name file) = (name, file) := by
  rw [splitCallee]
  cases name with
  | none => rw [calleeText, splitName?_eq_none h.tidy_file.last h.unmarked.not_calling]
  | some cs =>
    have hname := h.tidy_name cs rfl
    rw [calleeText, splitName?_append hname.ne_nil hname.last h.unmarked.not_calling
      h.tidy_file.ne_nil]
    rfl

theorem calleeText_eq_cons (h : Legible name file) :
    ∃ c rest, calleeText name file = c :: rest ∧ isBlank c = false := by
  have hfirst : ∃ cs back, calleeText name file = cs ++ back ∧ Tidy cs := by
    cases name with
    | none => exact ⟨file, [], (List.append_nil file).symm, h.tidy_file⟩
    | some cs => exact ⟨cs, _, rfl, h.tidy_name cs rfl⟩
  obtain ⟨cs, back, heq, htidy⟩ := hfirst
  obtain ⟨c, cs, rfl⟩ := List.exists_cons_of_ne_nil htidy.ne_nil
  exact ⟨c, cs ++ back, heq, htidy.head c rfl⟩

/-- A name in front of a parenthesis does not make up the word of a function that awaits. -/
theorem not_awaiting_calleeText (h : Legible name file) {c : Char} (hc : isBlank c = true) :
    ¬ (asyncWord ++ [c]) <+: calleeText name file := by
  cases name with
  | none => exact h.unmarked.not_awaiting c hc
  | some cs =>
    have hcs : Unmarked cs := h.unmarked
    rintro ⟨t, ht⟩
    rw [calleeText, List.append_assoc, List.singleton_append] at ht
    -- the word ends within the name, or the name within the word
    rcases List.append_eq_append_iff.mp ht with ⟨more, hmore, heq⟩ | ⟨more, hmore, heq⟩
    · cases more with
      | nil =>
        rw [List.append_nil] at hmore
        exact hcs.ne_async hmore
      | cons d more =>
        obtain ⟨rfl, -⟩ := List.cons.inj heq
        exact hcs.not_awaiting c hc ⟨more, by rw [hmore, List.append_assoc]; rfl⟩
    · cases more with
      | nil =>
        rw [List.append_nil] at hmore
        exact hcs.ne_async hmore.symm
      | cons d more =>
        obtain ⟨rfl, -⟩ := List.cons.inj heq
        have hspace : ' ' ∈ asyncWord := by
          rw [hmore]
          exact List.mem_append_right cs List.mem_cons_self
        exact absurd hspace (by decide)

/-- A frame is read as it is written, with or without the word of a function that awaits. -/
theorem splitFrame?_calleeText (h : Legible name file) {indent awaiting : List Char}
    (hindent : ∀ c ∈ indent, isBlank c = true) (hgap : Blanks gap)
    (hawaiting : awaiting = [] ∨ ∃ gap', Blanks gap' ∧ awaiting = asyncWord ++ gap')
    (hline : Digits line) (hcolumn : Digits column) (hclosing : closing = [] ∨ closing = [')']) :
    splitFrame? (indent ++ atWord ++ gap ++ (awaiting ++ calleeText name file) ++ ':' :: line ++
      ':' :: column ++ closing) = some ((name, file), line, column) := by
  obtain ⟨c, rest, hcallee, hc⟩ := calleeText_eq_cons h
  have hsplit := splitCallee_calleeText h
  rcases hawaiting with rfl | ⟨gap', hgap', rfl⟩
  · have hasync := dropAsync_of_forall fun d hd => not_awaiting_calleeText h (c := d) hd
    rw [List.nil_append]
    rw [hcallee] at hasync hsplit ⊢
    rw [splitFrame?_of_body hindent hgap hc hline hcolumn hclosing, hasync, hsplit]
  · rw [hcallee] at hsplit ⊢
    have hasync := dropAsync_append hgap' hc rest
    have hword : asyncWord ++ (gap' ++ c :: rest) =
        'a' :: ('s' :: 'y' :: 'n' :: 'c' :: (gap' ++ c :: rest)) := rfl
    rw [List.append_assoc asyncWord, hword]
    rw [hword] at hasync
    rw [splitFrame?_of_body hindent hgap (by decide) hline hcolumn hclosing, hasync, hsplit]

end AppBundle.StackTrace
