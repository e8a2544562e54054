import AppBundle.Proofs.SourceMap.RoundTrip
import AppBundle.Proofs.SourceMap.Words

/-!
# Where mappings fail

Mappings that cannot be read fail in one piece: the text in front of it is read, and the text up to
its end fails (`FailsAt`). The fault gives the byte of the text at which the trouble is, or the
number of the line (`PointsAt`). Offsets are added up apart for pieces and for lines, empty ones
among them; what holds them together is that the parts that were left behind, each with its
separator, are as wide as the text in front of the piece (`length_endedBy`).
-/

namespace AppBundle.SourceMap

open AppBundle.Text

/-! ## Parts with their separators -/

/-- Parts of a text, each ended by the separator. -/
def endedBy (sep : Char) (ps : List (List Char)) : List Char :=
  ps.flatMap (· ++ [sep])

/-- How wide parts are, each with the separator that ends it. -/
def width (ps : List (List Char)) : Nat :=
  (ps.map (·.length + 1)).sum

section Parts

variable {sep : Char} {p : List Char} {ps front back : List (List Char)}

theorem endedBy_cons (sep : Char) (p : List Char) (ps : List (List Char)) :
    endedBy sep (p :: ps) = p ++ sep :: endedBy sep ps := by
  simp [endedBy]

theorem width_cons (p : List Char) (ps : List (List Char)) :
    width (p :: ps) = p.length + 1 + width ps := by
  simp [width]

/-- Parts are as wide as the text that they make up. -/
theorem length_endedBy (sep : Char) (ps : List (List Char)) :
    (endedBy sep ps).length = width ps := by
  induction ps with
  | nil => rfl
  | cons p ps ih =>
    rw [endedBy_cons, width_cons, List.length_append, List.length_cons, ih]
    omega

/-- There are as many separators as parts. -/
theorem count_endedBy (h : ∀ p ∈ ps, sep ∉ p) : (endedBy sep ps).count sep = ps.length := by
  induction ps with
  | nil => rfl
  | cons p ps ih =>
    have hp : p.count sep = 0 := List.count_eq_zero.mpr (h p List.mem_cons_self)
    have hps := ih fun q hq => h q (List.mem_cons_of_mem p hq)
    rw [endedBy_cons, List.count_append, hp, List.count_cons_self, hps, List.length_cons]
    omega

/-- Text that parts stand in front of is split behind them. -/
theorem split_endedBy_append (h : ∀ p ∈ ps, sep ∉ p) (rest : List Char) :
    split sep (endedBy sep ps ++ rest) = ps ++ split sep rest := by
  induction ps with
  | nil => rfl
  | cons p ps ih =>
    have hp : sep ∉ p := h p List.mem_cons_self
    have hps := ih fun q hq => h q (List.mem_cons_of_mem p hq)
    rw [endedBy_cons, List.append_assoc, List.cons_append, split_append hp, hps, List.cons_append]

/-- The part stands between separators of a text, or between one and an end of the text. -/
structure Between (sep : Char) (cs before part after : List Char) : Prop where
  text : cs = before ++ part ++ after
  whole : sep ∉ part
  starts : ∀ c, before.getLast? = some c → c = sep
  ends : ∀ c, after.head? = some c → c = sep

/-- Parts with their separators end with one. -/
theorem eq_sep_of_getLast?_endedBy {c : Char} (h : (endedBy sep ps).getLast? = some c) :
    c = sep := by
  rcases List.eq_nil_or_concat ps with rfl | ⟨init, p, rfl⟩
  · exact absurd h (by simp [endedBy])
  · simpa [endedBy, eq_comm] using h

/-- What parts make up, put together, falls apart at each of them. -/
theorem exists_tail (sep : Char) (front : List (List Char)) (p : List Char)
    (back : List (List Char)) :
    ∃ tail, join [sep] (front ++ p :: back) = endedBy sep front ++ p ++ tail ∧
      ∀ c, tail.head? = some c → c = sep := by
  induction front with
  | nil =>
    cases back with
    | nil => exact ⟨[], by simp [endedBy, join], by simp⟩
    | cons q back => exact ⟨sep :: join [sep] (q :: back), by simp [endedBy, join], by simp⟩
  | cons q front ih =>
    obtain ⟨r, rs, hr⟩ := List.exists_cons_of_ne_nil
      (List.append_ne_nil_of_right_ne_nil front (List.cons_ne_nil p back))
    obtain ⟨tail, htail, hend⟩ := ih
    refine ⟨tail, ?_, hend⟩
    rw [List.cons_append, hr, join, ← hr, htail, endedBy_cons]
    simp

/-- A part that a text is split into stands behind the parts in front of it. -/
theorem between_of_split {cs : List Char} (h : split sep cs = front ++ p :: back) :
    (∀ q ∈ front, sep ∉ q) ∧ ∃ after, Between sep cs (endedBy sep front) p after := by
  have hparts : ∀ q ∈ front ++ p :: back, sep ∉ q := fun q hq => sep_notMem_of_mem_split (h ▸ hq)
  obtain ⟨after, hafter, hends⟩ := exists_tail sep front p back
  rw [← h, join_split] at hafter
  refine ⟨fun q hq => hparts q (List.mem_append_left _ hq), after, hafter, hparts p (by simp), ?_,
    hends⟩
  exact fun c hc => eq_sep_of_getLast?_endedBy hc

end Parts

/-! ## One piece -/

/-- The character is a digit behind which another follows. -/
def Continues (c : Char) : Prop :=
  ∃ d, digit? c = some d ∧ 32 ≤ d

/-- What is wrong with the digits of a piece that begins at a byte, and the fault that says so. -/
inductive DigitsFault (start : Nat) (piece : List Char) : MappingFault → Prop where
  /-- Behind digits there is a character that is none. -/
  | stranger {front : List Char} {c : Char} {rest : List Char}
      (split : piece = front ++ c :: rest) (digits : ∀ x ∈ front, digit? x ≠ none)
      (strange : digit? c = none) :
      DigitsFault start piece (.character (firstByte c) (start + front.length))
  /-- The last digit is one behind which another follows. -/
  | cut {front : List Char} {c : Char} (split : piece = front ++ [c])
      (digits : ∀ x ∈ piece, digit? x ≠ none) (last : Continues c) :
      DigitsFault start piece (.truncated (start + piece.length))
  /-- A number has a thirteenth digit. -/
  | long {front group : List Char} {c : Char} {rest : List Char}
      (split : piece = front ++ (group ++ c :: rest))
      (digits : ∀ x ∈ front ++ (group ++ [c]), digit? x ≠ none)
      (whole : ∀ x, front.getLast? = some x → ¬ Continues x)
      (full : group.length = maxDigits) (runs : ∀ x ∈ group, Continues x) :
      DigitsFault start piece (.overflow (start + (front ++ group).length))

/-- What is wrong with a piece that begins at a byte of a line, and the fault that says so. -/
inductive PieceFault (line start : Nat) (piece : List Char) : MappingFault → Prop where
  /-- The digits are no numbers. -/
  | digits {f : MappingFault} (wrong : DigitsFault start piece f) : PieceFault line start piece f
  /-- The number of fields is none of a segment. -/
  | count {fields : List Int} (writes : WritesFields piece fields)
      (wrong : fields.length ∉ [1, 4, 5]) : PieceFault line start piece (.fields fields.length)
  /-- A total falls below zero. -/
  | below (field : MappingField) {fields : List Int} (writes : WritesFields piece fields) :
      PieceFault line start piece (.negative field line)
  /-- A total is beyond 32 bits. -/
  | above {fields : List Int} (writes : WritesSegment piece fields) :
      PieceFault line start piece (.overflow start)

variable {t : Totals} {line start offset value n : Nat} {piece front cs : List Char}
  {fields : List Int} {f : MappingFault}

theorem Continues.digit {c : Char} (h : Continues c) : digit? c ≠ none := by
  obtain ⟨d, hd, -⟩ := h
  rw [hd]
  exact Option.some_ne_none d

/-- What is wrong with digits behind whole numbers is wrong with all of them. -/
theorem DigitsFault.behind (h : DigitsFault (start + front.length) piece f)
    (hdigits : ∀ x ∈ front, digit? x ≠ none)
    (hwhole : ∀ x, front.getLast? = some x → ¬ Continues x) :
    DigitsFault start (front ++ piece) f := by
  cases h with
  | @stranger before c rest hsplit hbefore hc =>
    rw [Nat.add_assoc, ← List.length_append]
    exact .stranger (by rw [hsplit, List.append_assoc])
      (List.forall_mem_append.mpr ⟨hdigits, hbefore⟩) hc
  | @cut before c hsplit hall hc =>
    rw [Nat.add_assoc, ← List.length_append]
    exact .cut (by rw [hsplit, List.append_assoc]) (List.forall_mem_append.mpr ⟨hdigits, hall⟩) hc
  | @long before group c rest hsplit hall hbefore hfull hruns =>
    rw [Nat.add_assoc, ← List.length_append, ← List.append_assoc]
    refine .long (by rw [hsplit, List.append_assoc]) ?_ ?_ hfull hruns
    · rw [List.append_assoc]
      exact List.forall_mem_append.mpr ⟨hdigits, hall⟩
    · intro x hx
      rw [List.getLast?_append] at hx
      rcases Option.or_eq_some_iff.mp hx with hlast | ⟨-, hlast⟩
      · exact hbefore x hlast
      · exact hwhole x hlast

/-- Fields that cannot be read have something wrong with their digits. `seen` are the digits of the
number that is being read. -/
theorem digitsFault_of_readFields {seen : List Char} (hseen : ∀ x ∈ seen, Continues x)
    (hroom : seen.length ≤ maxDigits)
    (h : readFields (start + seen.length) seen.length value cs = .error f) :
    DigitsFault start (seen ++ cs) f := by
  induction cs generalizing start seen value with
  | nil =>
    rw [readFields] at h
    split at h
    · exact absurd h (by simp)
    next hopen =>
    obtain ⟨init, c, rfl⟩ := (List.eq_nil_or_concat seen).resolve_left
      fun hnil => hopen (by rw [hnil, List.length_nil])
    obtain rfl := Except.error.inj h
    rw [List.append_nil, List.concat_eq_append] at *
    exact .cut rfl (fun x hx => (hseen x hx).digit) (hseen c (by simp))
  | cons c rest ih =>
    have hdigits : ∀ x ∈ seen, digit? x ≠ none := fun x hx => (hseen x hx).digit
    have hlength : (seen ++ [c]).length = seen.length + 1 := by simp
    rw [readFields] at h
    split at h
    · next hc =>
      -- the character is no digit
      obtain rfl := Except.error.inj h
      exact .stranger rfl hdigits hc
    next d hc =>
    split at h
    · next hfull =>
      -- twelve digits are read, and the character is a thirteenth
      obtain rfl := Except.error.inj h
      have hall : ∀ x ∈ [] ++ (seen ++ [c]), digit? x ≠ none :=
        List.forall_mem_append.mpr
          ⟨by simp, List.forall_mem_append.mpr ⟨hdigits, by simp [hc]⟩⟩
      exact .long rfl hall (by simp) (Nat.le_antisymm hroom hfull) hseen
    next hfull =>
    split at h
    · next hd =>
      -- the character says that another digit follows
      have hgroup : ∀ x ∈ seen ++ [c], Continues x :=
        List.forall_mem_append.mpr ⟨hseen, by simpa using ⟨d, hc, hd⟩⟩
      have hrest : readFields (start + (seen ++ [c]).length) (seen ++ [c]).length
          (value + d % 32 * 32 ^ seen.length) rest = .error f := by
        rw [hlength, ← Nat.add_assoc]
        exact h
      rw [List.append_cons]
      exact ih hgroup (by omega) hrest
    · next hd =>
      -- the character ends the number, and what is wrong stands behind it
      rw [map_eq_error] at h
      have hnext : readFields (start + (seen ++ [c]).length) 0 0 rest = .error f := by
        rw [hlength, ← Nat.add_assoc]
        exact h
      have hrest : DigitsFault (start + (seen ++ [c]).length) ([] ++ rest) f :=
        ih (by simp) (Nat.zero_le _) hnext
      rw [List.append_cons]
      refine hrest.behind (List.forall_mem_append.mpr ⟨hdigits, by simp [hc]⟩) ?_
      intro x hx
      rw [List.getLast?_concat, Option.some.injEq] at hx
      rintro ⟨e, he, hle⟩
      rw [← hx, hc, Option.some.injEq] at he
      omega

theorem shift_eq_error {field : MappingField} {total : Nat} {delta : Int}
    (h : shift field line total delta = .error f) : f = .negative field line := by
  simp only [shift] at h
  split at h
  · exact (Except.error.inj h).symm
  · exact absurd h (by simp)

/-- Fields that make up no segment are too few or too many, or take a total below zero. -/
theorem apply_eq_error (h : t.apply line fields = .error f) :
    (f = .fields fields.length ∧ fields.length ∉ [1, 4, 5]) ∨
      ∃ field, f = .negative field line := by
  have hshift : ∀ {field : MappingField} {total : Nat} {delta : Int},
      shift field line total delta = .error f → ∃ field, f = .negative field line :=
    fun h => ⟨_, shift_eq_error h⟩
  rcases fields with _ | ⟨column, rest⟩
  · exact .inl ⟨(Except.error.inj h).symm, by simp⟩
  rw [Totals.apply] at h
  rcases bind_eq_error.mp h with h | ⟨_, -, h⟩
  · exact .inr (hshift h)
  rcases rest with _ | ⟨_, _ | ⟨_, _ | ⟨_, rest⟩⟩⟩
  · exact absurd h (by simp [pure, Except.pure])
  · exact .inl ⟨(Except.error.inj h).symm, by simp⟩
  · exact .inl ⟨(Except.error.inj h).symm, by simp⟩
  dsimp only at h
  split at h
  · next hmany =>
    refine .inl ⟨(Except.error.inj h).symm, ?_⟩
    simp only [List.length_cons, List.mem_cons, List.not_mem_nil, or_false]
    omega
  rcases bind_eq_error.mp h with h | ⟨_, -, h⟩
  · exact .inr (hshift h)
  rcases bind_eq_error.mp h with h | ⟨_, -, h⟩
  · exact .inr (hshift h)
  rcases bind_eq_error.mp h with h | ⟨_, -, h⟩
  · exact .inr (hshift h)
  rcases rest with _ | ⟨_, rest⟩
  · exact absurd h (by simp [pure, Except.pure])
  rcases bind_eq_error.mp h with h | ⟨_, -, h⟩
  · exact .inr (hshift h)
  · exact absurd h (by simp [pure, Except.pure])

/-- A piece that cannot be read has something wrong with it. -/
theorem pieceFault_of_readSegment (h : readSegment t line start piece = .error f) :
    PieceFault line start piece f := by
  unfold readSegment at h
  rcases bind_eq_error.mp h with h | ⟨fields, hfields, h⟩
  · have hnone : ∀ x ∈ ([] : List Char), Continues x := by simp
    exact .digits (digitsFault_of_readFields hnone (Nat.zero_le _) h)
  have hwrites := readFields_eq_ok.mp hfields
  rcases bind_eq_error.mp h with h | ⟨⟨u, s⟩, happly, h⟩
  · rcases apply_eq_error h with ⟨rfl, hcount⟩ | ⟨field, rfl⟩
    · exact .count hwrites hcount
    · exact .below field hwrites
  · have hcount := (Totals.apply_eq_ok.mp happly).1
    dsimp only at h
    split at h
    · exact absurd h (by simp [pure, Except.pure])
    · obtain rfl := Except.error.inj h
      exact .above ⟨hwrites, hcount⟩

/-! ## Pieces of a line -/

section Parts

variable {u : Totals} {ss : List Segment} {pieces lines before : List (List Char)}

/-- Behind pieces that are read, the pieces that follow are read on. -/
theorem readPieces_append (h : readPieces line t start before = .ok (u, ss))
    (back : List (List Char)) :
    readPieces line t start (before ++ back) =
      (readPieces line u (start + width before) back).map fun r => (r.1, ss ++ r.2) := by
  induction before generalizing t start ss with
  | nil =>
    obtain ⟨rfl, rfl⟩ := Prod.mk.inj (Except.ok.inj h)
    exact (congrFun Except.map_id (readPieces line t start back)).symm
  | cons piece before ih =>
    rw [List.cons_append, readPieces, width_cons]
    rw [readPieces] at h
    split at h
    · next hempty =>
      rw [if_pos hempty, ih h, List.isEmpty_iff.mp hempty, List.length_nil, Nat.zero_add,
        Nat.add_assoc]
    · next hfilled =>
      obtain ⟨⟨t', s⟩, hsegment, h⟩ := bind_eq_ok.mp h
      obtain ⟨⟨u', ss'⟩, hrest, h⟩ := bind_eq_ok.mp h
      obtain ⟨rfl, rfl⟩ := Prod.mk.inj (Except.ok.inj h)
      rw [if_neg hfilled, hsegment, ok_bind]
      dsimp only
      rw [ih hrest, ← Nat.add_assoc, ← Nat.add_assoc]
      cases readPieces line u' (start + piece.length + 1 + width before) back <;> rfl

/-- Pieces that cannot be read fail in one of them, and those in front of it are read. -/
theorem readPieces_eq_error (h : readPieces line t start pieces = .error f) :
    ∃ before piece back u ss, pieces = before ++ piece :: back ∧ piece ≠ [] ∧
      readPieces line t start before = .ok (u, ss) ∧
      readSegment u line (start + width before) piece = .error f := by
  induction pieces generalizing t start with
  | nil => exact absurd h (by simp [readPieces])
  | cons piece pieces ih =>
    rw [readPieces] at h
    split at h
    · next hempty =>
      obtain ⟨before, q, back, u, ss, rfl, hq, hbefore, hfault⟩ := ih h
      refine ⟨piece :: before, q, back, u, ss, rfl, hq, ?_, ?_⟩
      · rw [readPieces, if_pos hempty, hbefore]
      · rw [width_cons, List.isEmpty_iff.mp hempty, List.length_nil, Nat.zero_add, ← Nat.add_assoc]
        exact hfault
    · next hfilled =>
      rcases bind_eq_error.mp h with h | ⟨⟨t', s⟩, hsegment, h⟩
      · exact ⟨[], piece, pieces, t, [], rfl, by simpa using hfilled, rfl, h⟩
      rcases bind_eq_error.mp h with h | ⟨⟨u, ss⟩, -, h⟩
      · obtain ⟨before, q, back, u, ss, rfl, hq, hbefore, hfault⟩ := ih h
        refine ⟨piece :: before, q, back, u, s :: ss, rfl, hq, ?_, ?_⟩
        · rw [readPieces, if_neg hfilled, hsegment, ok_bind]
          dsimp only
          rw [hbefore]
          rfl
        · rw [width_cons, ← Nat.add_assoc, ← Nat.add_assoc]
          exact hfault
      · exact absurd h (by simp [pure, Except.pure])

/-- A line that cannot be read fails in a piece: the line is read up to where the piece begins, and
fails up to where it ends. -/
theorem exists_piece_of_readPieces {l : List Char}
    (h : readPieces line t start (split ',' l) = .error f) :
    ∃ before piece after, Between ',' l before piece after ∧ piece ≠ [] ∧
      (∃ r, readPieces line t start (split ',' before) = .ok r) ∧
      readPieces line t start (split ',' (before ++ piece)) = .error f ∧
      PieceFault line (start + before.length) piece f := by
  obtain ⟨front, piece, back, u, ss, hpieces, hne, hread, hpiece⟩ := readPieces_eq_error h
  obtain ⟨hcommas, after, hbetween⟩ := between_of_split hpieces
  refine ⟨endedBy ',' front, piece, after, hbetween, hne, ?_, ?_, ?_⟩
  · have hsplit := split_endedBy_append hcommas []
    rw [List.append_nil] at hsplit
    rw [hsplit, readPieces_append hread]
    exact ⟨_, rfl⟩
  · have hfilled : ¬ piece.isEmpty = true := by simpa using hne
    rw [split_endedBy_append hcommas, split_of_notMem hbetween.whole, readPieces_append hread,
      readPieces, if_neg hfilled, hpiece]
    rfl
  · rw [length_endedBy]
    exact pieceFault_of_readSegment hpiece

/-! ## Lines of a text -/

/-- Lines that cannot be read fail in one of them. Those in front of it are read, whatever follows
them. -/
theorem readLines_eq_error (h : readLines t n start lines = .error f) :
    ∃ before l back u sss, lines = before ++ l :: back ∧
      (∀ more, readLines t n start (before ++ more) =
        (readLines u (n + before.length) (start + width before) more).map (sss ++ ·)) ∧
      readPieces (min (n + before.length) maxWord32) u.newLine (start + width before)
        (split ',' l) = .error f := by
  induction lines generalizing t n start with
  | nil => exact absurd h (by simp [readLines])
  | cons l lines ih =>
    rw [readLines] at h
    rcases bind_eq_error.mp h with h | ⟨⟨u, ss⟩, hl, h⟩
    · refine ⟨[], l, lines, t, [], rfl, fun more => ?_, h⟩
      exact (congrFun Except.map_id (readLines t n start more)).symm
    rcases bind_eq_error.mp h with h | ⟨sss, -, h⟩
    · obtain ⟨before, l', back, u', sss, rfl, hbefore, hfault⟩ := ih h
      have hnumber : n + (l :: before).length = n + 1 + before.length := by
        rw [List.length_cons]
        omega
      refine ⟨l :: before, l', back, u', ss :: sss, rfl, fun more => ?_, ?_⟩
      · rw [List.cons_append, readLines, hl, ok_bind]
        dsimp only
        rw [hbefore, hnumber, width_cons, ← Nat.add_assoc, ← Nat.add_assoc]
        cases readLines u' (n + 1 + before.length) (start + l.length + 1 + width before) more <;>
          rfl
      · rw [hnumber, width_cons, ← Nat.add_assoc, ← Nat.add_assoc]
        exact hfault
    · exact absurd h (by simp [pure, Except.pure])

end Parts

/-! ## The characters of mappings -/

/-- The characters between segments and between lines. -/
def IsSeparator (c : Char) : Prop :=
  c = ',' ∨ c = ';'

/-- What stands in mappings: digits of six bits and separators. -/
def mappingChars : List Char :=
  ',' :: ';' :: digitChars

/-- The byte is one that stands in mappings. -/
def IsMappingByte (b : UInt8) : Prop :=
  b ∈ encode mappingChars

variable {c : Char} {text : String} {m : Mappings}

theorem digit?_ne_none_iff : digit? c ≠ none ↔ c ∈ digitChars := by
  constructor
  · intro h
    obtain ⟨d, hd⟩ := Option.ne_none_iff_exists'.mp h
    obtain ⟨b, -, hb⟩ := encodeChar_of_utf8Size_eq_one (utf8Size_eq_one_of_digit hd)
    have hall : ∀ n < 256, digit? (Char.ofNat n) ≠ none → Char.ofNat n ∈ digitChars := by
      decide +kernel
    have hmem := hall b.toNat b.toNat_lt
    rw [hb] at hmem
    exact hmem h
  · intro h
    have hall : (digitChars.all fun x => (digit? x).isSome) = true := by decide +kernel
    exact Option.isSome_iff_ne_none.mp (List.all_eq_true.mp hall c h)

theorem mem_mappingChars_iff : c ∈ mappingChars ↔ IsSeparator c ∨ digit? c ≠ none := by
  rw [mappingChars, List.mem_cons, List.mem_cons, digit?_ne_none_iff, IsSeparator, or_assoc]

theorem utf8Size_of_mem_mappingChars (h : c ∈ mappingChars) : c.utf8Size = 1 := by
  have hall : (mappingChars.all fun x => x.utf8Size == 1) = true := by decide
  exact beq_iff_eq.mp (List.all_eq_true.mp hall c h)

theorem byteLength_of_mappingChars (h : ∀ c ∈ cs, c ∈ mappingChars) :
    byteLength cs = cs.length :=
  byteLength_eq_length fun c hc => utf8Size_of_mem_mappingChars (h c hc)

theorem isMappingByte_of_mem_encode (h : ∀ c ∈ cs, c ∈ mappingChars) {b : UInt8}
    (hb : b ∈ encode cs) : IsMappingByte b := by
  obtain ⟨c, hc, hb⟩ := List.mem_flatMap.mp hb
  exact List.mem_flatMap.mpr ⟨c, h c hc, hb⟩

/-- What is read holds nothing but digits and separators. -/
theorem mem_mappingChars_of_readMappings (h : readMappings text = .ok m) :
    ∀ c ∈ text.toList, c ∈ mappingChars := by
  obtain ⟨lines, hlines, -⟩ := readMappings_eq_ok.mp h
  intro c hc
  rw [mem_mappingChars_iff]
  by_cases hsemicolon : c = ';'
  · exact .inl (.inr hsemicolon)
  obtain ⟨l, hl, hcl⟩ := exists_mem_split hc hsemicolon
  obtain ⟨line, hline⟩ := exists_right_of_mem hlines hl
  by_cases hcomma : c = ','
  · exact .inl (.inl hcomma)
  obtain ⟨piece, hpiece, hcp⟩ := exists_mem_split hcl hcomma
  have hfilled : piece ∈ filled (split ',' l) :=
    List.mem_filter.mpr ⟨hpiece, by simpa using List.ne_nil_of_mem hcp⟩
  obtain ⟨fields, ⟨numbers, hdigits, -⟩, -⟩ := exists_right_of_mem hline hfilled
  have hmem : digit? c ∈ piece.map digit? := List.mem_map_of_mem hcp
  rw [hdigits] at hmem
  obtain ⟨d, -, hd⟩ := List.mem_map.mp hmem
  exact .inr (hd ▸ Option.some_ne_none d)

/-! ## The text in front of the piece -/

/-- The text falls apart at the piece that cannot be read: the text in front of it is read, and the
text up to its end fails. -/
structure FailsAt (text : String) (f : MappingFault) (before piece after : List Char) : Prop where
  text : text.toList = before ++ piece ++ after
  filled : piece ≠ []
  whole : ∀ c ∈ piece, ¬ IsSeparator c
  starts : ∀ c, before.getLast? = some c → IsSeparator c
  ends : ∀ c, after.head? = some c → IsSeparator c
  read : ∃ m, readMappings (String.ofList before) = .ok m
  fails : readMappings (String.ofList (before ++ piece)) = .error f

/-- What the fault says of the piece and of the text around it. -/
def PointsAt (before piece after : List Char) : MappingFault → Prop
  | .version _ => False
  | .character c offset => ∃ front b back,
      encode (before ++ piece ++ after) = front ++ b :: back ∧ front.length = offset ∧
        Char.ofNat b.toNat = c ∧ ¬ IsMappingByte b ∧ ∀ x ∈ front, IsMappingByte x
  | .truncated offset =>
      offset = byteLength (before ++ piece) ∧ ∃ front c, piece = front ++ [c] ∧ Continues c
  | .overflow offset => offset = byteLength before ∨ ∃ front group c rest,
      piece = front ++ (group ++ c :: rest) ∧ (∀ x, front.getLast? = some x → ¬ Continues x) ∧
        group.length = 12 ∧ (∀ x ∈ group, Continues x) ∧ digit? c ≠ none ∧
        offset = byteLength (before ++ front ++ group)
  | .fields count => ∃ fields, WritesFields piece fields ∧ fields.length = count ∧
      count ∉ [1, 4, 5]
  | .negative _ line => line = min (before.count ';' + 1) maxWord32

variable {before after : List Char}

/-- The first byte of a character that is no digit and no separator stands in no mappings. -/
theorem exists_firstByte_notMapping (hdigit : digit? c = none) (hsep : ¬ IsSeparator c) :
    ∃ b more, encodeChar c = b :: more ∧ ¬ IsMappingByte b ∧ firstByte c = Char.ofNat b.toNat := by
  obtain ⟨b, more, hbytes, hb, hfirst⟩ := exists_firstByte hdigit
  refine ⟨b, more, hbytes, fun hmapping => ?_, hfirst⟩
  obtain ⟨x, hx, hbx⟩ := List.mem_flatMap.mp hmapping
  by_cases hsize : c.utf8Size = 1
  · obtain ⟨b₁, hbytes₁, hchar₁⟩ := encodeChar_of_utf8Size_eq_one hsize
    obtain ⟨b₂, hbytes₂, hchar₂⟩ := encodeChar_of_utf8Size_eq_one (utf8Size_of_mem_mappingChars hx)
    rw [hbytes, List.cons.injEq] at hbytes₁
    rw [hbytes₂, List.mem_singleton, hbytes₁.1] at hbx
    have hc : c = x := by rw [← hchar₁, hbx, hchar₂]
    exact (mem_mappingChars_iff.mp (hc ▸ hx)).elim hsep fun h => h hdigit
  · have hall : ((encode mappingChars).all fun y => decide (y.toNat < 128)) = true := by decide
    have hlow := of_decide_eq_true (List.all_eq_true.mp hall b hmapping)
    have hhigh := le_of_mem_encodeChar hsize (hbytes ▸ List.mem_cons_self)
    exact absurd hlow (Nat.not_lt.mpr hhigh)

/-- Behind text that is read, a fault of the digits of a piece points at the character. -/
theorem DigitsFault.pointsAt (h : DigitsFault before.length piece f)
    (hbefore : ∀ c ∈ before, c ∈ mappingChars) (hpiece : ∀ c ∈ piece, ¬ IsSeparator c) :
    PointsAt before piece after f := by
  have hread : ∀ {front : List Char}, (∀ x ∈ front, digit? x ≠ none) →
      ∀ x ∈ before ++ front, x ∈ mappingChars := fun hfront =>
    List.forall_mem_append.mpr
      ⟨hbefore, fun x hx => mem_mappingChars_iff.mpr (.inr (hfront x hx))⟩
  cases h with
  | @stranger front c rest hsplit hfront hc =>
    have hmem : c ∈ piece := by simp [hsplit]
    obtain ⟨b, more, hbytes, hb, hfirst⟩ := exists_firstByte_notMapping hc (hpiece c hmem)
    refine ⟨encode (before ++ front), b, more ++ encode (rest ++ after), ?_, ?_, hfirst.symm, hb,
      fun x hx => isMappingByte_of_mem_encode (hread hfront) hx⟩
    · have htext : before ++ piece ++ after = before ++ front ++ ([c] ++ (rest ++ after)) := by
        simp [hsplit]
      have hone : encode [c] = b :: more := by rw [encode, List.flatMap_singleton, hbytes]
      rw [htext, encode_append, encode_append [c], hone, List.cons_append]
    · rw [length_encode, byteLength_of_mappingChars (hread hfront), List.length_append]
  | @cut front c hsplit hdigits hlast =>
    refine ⟨?_, front, c, hsplit, hlast⟩
    rw [byteLength_of_mappingChars (hread hdigits), List.length_append]
  | @long front group c rest hsplit hdigits hwhole hfull hruns =>
    rw [← List.append_assoc] at hdigits
    obtain ⟨hgroup, hc⟩ := List.forall_mem_append.mp hdigits
    refine .inr ⟨front, group, c, rest, hsplit, hwhole, hfull, hruns, hc c (by simp), ?_⟩
    rw [List.append_assoc, byteLength_of_mappingChars (hread hgroup), ← List.length_append]

/-- Behind text that is read, the fault of a piece points at it. -/
theorem PieceFault.pointsAt
    (h : PieceFault (min (before.count ';' + 1) maxWord32) before.length piece f)
    (hbefore : ∀ c ∈ before, c ∈ mappingChars) (hpiece : ∀ c ∈ piece, ¬ IsSeparator c) :
    PointsAt before piece after f := by
  cases h with
  | digits hwrong => exact hwrong.pointsAt hbefore hpiece
  | count hwrites hwrong => exact ⟨_, hwrites, rfl, hwrong⟩
  | below field hwrites => exact rfl
  | above hwrites => exact .inl (byteLength_of_mappingChars hbefore).symm

/-- A line behind others is read with the totals that they leave. -/
theorem readLines_singleton (t : Totals) (n start : Nat) (l : List Char) :
    readLines t n start [l] =
      (readPieces (min n maxWord32) t.newLine start (split ',' l)).map fun r => [r.2] := by
  rw [readLines]
  change (readPieces (min n maxWord32) t.newLine start (split ',' l) >>= _) = _
  cases readPieces (min n maxWord32) t.newLine start (split ',' l) <;> rfl

/-- A text that cannot be read fails in a piece that something is wrong with. -/
theorem exists_failsAt (h : readMappings text = .error f) :
    ∃ before piece after, FailsAt text f before piece after ∧
      PieceFault (min (before.count ';' + 1) maxWord32) before.length piece f := by
  obtain ⟨lines, l, back, u, sss, hlines, hread, hl⟩ := readLines_eq_error (map_eq_error.mp h)
  obtain ⟨before, piece, after, hpiece, hne, ⟨r, hok⟩, herror, hfault⟩ :=
    exists_piece_of_readPieces hl
  obtain ⟨hsemicolons, rest, hline⟩ := between_of_split hlines
  obtain ⟨⟨hbefore, hwhole⟩, -⟩ : (';' ∉ before ∧ ';' ∉ piece) ∧ ';' ∉ after := by
    have hsemicolon := hline.whole
    rw [hpiece.text] at hsemicolon
    simpa [and_assoc] using hsemicolon
  -- up to the line that fails, only that line decides what is read
  have hon : ∀ last, ';' ∉ last → readMappings (String.ofList (endedBy ';' lines ++ last)) =
      (((readPieces (min (1 + lines.length) maxWord32) u.newLine (0 + width lines)
        (split ',' last)).map fun r => [r.2]).map (sss ++ ·)).map Mappings.mk := by
    intro last hlast
    rw [readMappings, String.toList_ofList, split_endedBy_append hsemicolons,
      split_of_notMem hlast, hread, readLines_singleton]
  refine ⟨endedBy ';' lines ++ before, piece, after ++ rest, ?_, ?_⟩
  · -- the piece stands between the separators
    constructor
    · rw [hline.text, hpiece.text]
      simp
    · exact hne
    · rintro c hc (rfl | rfl)
      · exact hpiece.whole hc
      · exact hwhole hc
    · intro c hc
      rw [List.getLast?_append] at hc
      rcases Option.or_eq_some_iff.mp hc with hc | ⟨-, hc⟩
      · exact .inl (hpiece.starts c hc)
      · exact .inr (hline.starts c hc)
    · intro c hc
      rw [List.head?_append] at hc
      rcases Option.or_eq_some_iff.mp hc with hc | ⟨-, hc⟩
      · exact .inl (hpiece.ends c hc)
      · exact .inr (hline.ends c hc)
    · rw [hon before hbefore, hok]
      exact ⟨_, rfl⟩
    · rw [List.append_assoc, hon (before ++ piece) (by simp [hbefore, hwhole]), herror]
      rfl
  · -- its line is one more than the semicolons in front of it
    have hcount : (endedBy ';' lines ++ before).count ';' + 1 = 1 + lines.length := by
      rw [List.count_append, count_endedBy hsemicolons, List.count_eq_zero.mpr hbefore]
      omega
    rw [hcount, List.length_append, length_endedBy, ← Nat.zero_add (width lines)]
    exact hfault

/-- Mappings that cannot be read fail in one piece, and the fault points at it: it gives the first
byte of the text that stands in no mappings, the end of a piece that breaks off, the piece or the
thirteenth digit of a number where a number is out of range, how many fields the piece has, or the
number of its line. Numbers of lines have 32 bits and stop at the last of them. -/
theorem readMappings_error_pointsAt (h : readMappings text = .error f) :
    ∃ before piece after, FailsAt text f before piece after ∧ PointsAt before piece after f := by
  obtain ⟨before, piece, after, hfails, hfault⟩ := exists_failsAt h
  obtain ⟨m, hread⟩ := hfails.read
  have hbefore := mem_mappingChars_of_readMappings hread
  rw [String.toList_ofList] at hbefore
  exact ⟨before, piece, after, hfails, hfault.pointsAt hbefore hfails.whole⟩

/-- A digit that another should follow and an accented letter behind it, in the third
piece of the second line. -/
theorem readMappings_error_pointsAt_accented :
    readMappings ";AAAA,,AgéA;é" = .error (.character 'Ã' 9) ∧
      ∃ before piece after, FailsAt ";AAAA,,AgéA;é" (.character 'Ã' 9) before piece after ∧
        PointsAt before piece after (.character 'Ã' 9) := by
  have hfault : readMappings ";AAAA,,AgéA;é" = .error (.character 'Ã' 9) := by decide
  exact ⟨hfault, readMappings_error_pointsAt hfault⟩

end AppBundle.SourceMap
