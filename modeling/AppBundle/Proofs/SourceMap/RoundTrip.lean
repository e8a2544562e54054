import AppBundle.Proofs.SourceMap.Segments
import AppBundle.Proofs.Text.Lines
import Mathlib.Data.List.GetD

/-!
# Writing mappings

Mappings are written line by line with semicolons between the lines and commas between the segments.
Every field of a segment is the difference to the total so far, as a number of digits of six bits.
What was written is read back (`readMappings_textOf`).
-/

namespace AppBundle.SourceMap

open AppBundle.Text

/-! ## Numbers -/

/-- The digits in the order of their values. -/
def digitChars : List Char :=
  "ABCDEFGHIJKLMNOPQRSTUVWXYZabcdefghijklmnopqrstuvwxyz0123456789+/".toList

/-- The digit of a value. -/
def digitChar (n : Nat) : Char :=
  digitChars.getD n 'A'

/-- The values of the digits of a number, the lowest one first; all but the last say that another
follows. -/
def digitsOf (n : Nat) : List Nat :=
  if n < 32 then [n] else (32 + n % 32) :: digitsOf (n / 32)
termination_by n
decreasing_by omega

/-- A number with its sign as the lowest bit. -/
def unsigned (x : Int) : Nat :=
  if x < 0 then 2 * x.natAbs + 1 else 2 * x.natAbs

/-- A field in digits. -/
def fieldText (x : Int) : List Char :=
  (digitsOf (unsigned x)).map digitChar

theorem digit?_digitChar {n : Nat} (h : n < 64) : digit? (digitChar n) = some n := by
  have hall : ∀ m < 64, digit? (digitChar m) = some m := by decide +kernel
  exact hall n h

theorem signed_unsigned (x : Int) : signed (unsigned x) = x := by
  unfold signed unsigned
  by_cases h : x < 0
  · rw [if_pos h, if_pos (by omega)]
    omega
  · rw [if_neg h, if_neg (by omega)]
    omega

theorem magnitude_digitsOf (n : Nat) : magnitude (digitsOf n) = n := by
  induction n using Nat.strongRecOn with
  | ind n ih =>
    rw [digitsOf]
    by_cases h : n < 32
    · rw [if_pos h, magnitude_cons, show magnitude [] = 0 from rfl, Nat.mod_eq_of_lt h]
      omega
    · have hrest := ih (n / 32) (by omega)
      rw [if_neg h, magnitude_cons, hrest]
      omega

theorem digitsOf_lt {n d : Nat} (h : d ∈ digitsOf n) : d < 64 := by
  induction n using Nat.strongRecOn with
  | ind n ih =>
    rw [digitsOf] at h
    by_cases hn : n < 32
    · rw [if_pos hn, List.mem_singleton] at h
      omega
    · rw [if_neg hn] at h
      rcases List.mem_cons.mp h with rfl | h
      · omega
      · exact ih (n / 32) (by omega) h

/-- A number has no more digits than there is room for. -/
theorem completes_digitsOf {k before : Nat} (hk : before + k + 1 ≤ maxDigits) {n : Nat}
    (hn : n < 32 ^ (k + 1)) : Completes before (digitsOf n) := by
  induction k generalizing before n with
  | zero =>
    have hlt : n < 32 := by omega
    rw [digitsOf, if_pos hlt]
    exact (completes_cons_of_lt hlt).mpr ⟨rfl, by omega⟩
  | succ k ih =>
    rw [digitsOf]
    by_cases hlt : n < 32
    · rw [if_pos hlt]
      exact (completes_cons_of_lt hlt).mpr ⟨rfl, by omega⟩
    · have hdiv : n / 32 < 32 ^ (k + 1) := by
        rw [Nat.div_lt_iff_lt_mul (by decide)]
        rwa [Nat.pow_succ] at hn
      rw [if_neg hlt]
      exact (completes_cons_of_le (by omega)).mpr (ih (by omega) hdiv)

/-- Fields of at most 32 bits are read back. -/
theorem writesFields_fieldText {fields : List Int} (h : ∀ x ∈ fields, x.natAbs ≤ maxWord32) :
    WritesFields (fields.flatMap fieldText) fields := by
  refine ⟨fields.map fun x => digitsOf (unsigned x), ?_, ?_, ?_⟩
  · -- the characters are those of the digits
    induction fields with
    | nil => rfl
    | cons x fields ih =>
      have hx : (fieldText x).map digit? = (digitsOf (unsigned x)).map some := by
        rw [fieldText, List.map_map]
        apply List.map_congr_left
        intro d hd
        exact digit?_digitChar (digitsOf_lt hd)
      have hrest := ih fun y hy => h y (List.mem_cons_of_mem x hy)
      rw [List.flatMap_cons, List.map_append, hx, hrest, List.map_cons, List.flatten_cons,
        List.map_append]
  · -- each number is short enough and ends
    intro ds hds
    obtain ⟨x, hx, rfl⟩ := List.mem_map.mp hds
    have hword : maxWord32 = 4294967295 := rfl
    have hlt : unsigned x < 32 ^ (6 + 1) := by
      have habs := h x hx
      unfold unsigned
      split <;> omega
    exact completes_digitsOf (k := 6) (by decide) hlt
  · -- the digits make up the fields
    rw [List.map_map]
    conv_lhs => rw [← List.map_id fields]
    apply List.map_congr_left
    intro x _
    rw [Function.comp_apply, numberOf, magnitude_digitsOf, signed_unsigned, id]

/-! ## Segments -/

/-- All numbers of the segment fit 32 bits. -/
def FitsSegment (s : Segment) : Prop :=
  s.column ≤ maxWord32 ∧ ∀ o ∈ s.source,
    o.source ≤ maxWord32 ∧ o.line ≤ maxWord32 ∧ o.column ≤ maxWord32 ∧ ∀ n ∈ o.name, n ≤ maxWord32
  deriving Decidable

namespace Totals

/-- The differences between the totals and a segment. -/
def fieldsTo (t : Totals) (s : Segment) : List Int :=
  match s.source with
  | none => [s.column - t.column]
  | some o =>
    let place : List Int :=
      [s.column - t.column, o.source - t.source, o.line - t.line, o.column - t.sourceColumn]
    match o.name with
    | none => place
    | some name => place ++ [(name : Int) - t.name]

/-- The totals behind a segment. -/
def moveTo (t : Totals) (s : Segment) : Totals :=
  match s.source with
  | none => { t with column := s.column }
  | some o => ⟨s.column, o.source, o.line, o.column, o.name.getD t.name⟩

variable {t : Totals} {s : Segment}

theorem length_fieldsTo (t : Totals) (s : Segment) :
    (t.fieldsTo s).length = 1 ∨ (t.fieldsTo s).length = 4 ∨ (t.fieldsTo s).length = 5 := by
  obtain ⟨column, _ | ⟨source, line, sourceColumn, _ | name⟩⟩ := s <;> simp [fieldsTo]

/-- The differences lead from the totals to the segment. -/
theorem plus_fieldsTo (t : Totals) (s : Segment) : t.plus (t.fieldsTo s) = t.moveTo s := by
  obtain ⟨column, _ | ⟨source, line, sourceColumn, _ | name⟩⟩ := s <;>
    simp [fieldsTo, plus, moveTo, value]

theorem segment_moveTo (t : Totals) (s : Segment) :
    (t.moveTo s).segment (t.fieldsTo s).length = s := by
  obtain ⟨column, _ | ⟨source, line, sourceColumn, _ | name⟩⟩ := s <;>
    simp [fieldsTo, moveTo, segment]

theorem fits_moveTo (ht : t.fits = true) (hs : FitsSegment s) : (t.moveTo s).fits = true := by
  obtain ⟨column, _ | ⟨source, line, sourceColumn, _ | name⟩⟩ := s <;>
    simp_all [FitsSegment, moveTo, fits]

theorem admits_fieldsTo (ht : t.fits = true) (hs : FitsSegment s) : t.Admits (t.fieldsTo s) := by
  have hmoved := fits_iff.mp (fits_moveTo ht hs)
  have hsum : ∀ k < 5, t.value k + (t.fieldsTo s).getD k 0 = (t.moveTo s).value k := by
    rw [forall_lt_five]
    obtain ⟨column, _ | ⟨source, line, sourceColumn, _ | name⟩⟩ := s <;>
      simp [fieldsTo, moveTo, value]
  intro k hk
  rw [hsum k hk]
  exact hmoved k hk

/-- No difference takes more than 32 bits. -/
theorem natAbs_fieldsTo (ht : t.fits = true) (hs : FitsSegment s) :
    ∀ x ∈ t.fieldsTo s, x.natAbs ≤ maxWord32 := by
  have hadmits := admits_fieldsTo ht hs
  intro x hx
  obtain ⟨k, hk, rfl⟩ := List.getElem_of_mem hx
  have hlt : k < 5 := by
    rcases length_fieldsTo t s with h | h | h <;> omega
  have hbefore := fits_iff.mp ht k hlt
  have hbehind := hadmits k hlt
  rw [List.getD_eq_getElem _ _ hk] at hbehind
  unfold FitsWord at hbefore hbehind
  omega

end Totals

/-! ## Lines -/

/-- The segments of a line in digits. -/
def pieceTexts (t : Totals) : List Segment → List (List Char)
  | [] => []
  | s :: rest => (t.fieldsTo s).flatMap fieldText :: pieceTexts (t.moveTo s) rest

/-- The fields of the segments of a line. -/
def lineFields (t : Totals) : List Segment → List (List Int)
  | [] => []
  | s :: rest => t.fieldsTo s :: lineFields (t.moveTo s) rest

/-- The totals behind the segments of a line. -/
def endOfLine (t : Totals) (line : List Segment) : Totals :=
  line.foldl Totals.moveTo t

variable {t : Totals} {line : List Segment}

theorem behind_lineFields (t : Totals) (line : List Segment) :
    t.behind (lineFields t line) = endOfLine t line := by
  induction line generalizing t with
  | nil => rfl
  | cons s line ih =>
    have hstep := ih (t.moveTo s)
    unfold Totals.behind endOfLine at hstep ⊢
    rw [lineFields, List.foldl_cons, List.foldl_cons, Totals.plus_fieldsTo, hstep]

theorem segments_lineFields (t : Totals) (line : List Segment) :
    t.segments (lineFields t line) = line := by
  induction line generalizing t with
  | nil => rfl
  | cons s line ih =>
    rw [lineFields, Totals.segments, Totals.plus_fieldsTo, Totals.segment_moveTo, ih]

theorem admitsAll_lineFields (ht : t.fits = true) (h : ∀ s ∈ line, FitsSegment s) :
    t.AdmitsAll (lineFields t line) := by
  induction line generalizing t with
  | nil => trivial
  | cons s line ih =>
    have hs : FitsSegment s := h s List.mem_cons_self
    refine ⟨Totals.admits_fieldsTo ht hs, ?_⟩
    rw [Totals.plus_fieldsTo]
    exact ih (Totals.fits_moveTo ht hs) fun r hr => h r (List.mem_cons_of_mem s hr)

theorem fits_endOfLine (ht : t.fits = true) (h : ∀ s ∈ line, FitsSegment s) :
    (endOfLine t line).fits = true := by
  induction line generalizing t with
  | nil => exact ht
  | cons s line ih =>
    have hs : FitsSegment s := h s List.mem_cons_self
    exact ih (Totals.fits_moveTo ht hs) fun r hr => h r (List.mem_cons_of_mem s hr)

/-- The digits of the segments of a line are those of its fields. -/
theorem writesSegment_pieceTexts (ht : t.fits = true) (h : ∀ s ∈ line, FitsSegment s) :
    List.Forall₂ WritesSegment (pieceTexts t line) (lineFields t line) := by
  induction line generalizing t with
  | nil => exact .nil
  | cons s line ih =>
    have hs : FitsSegment s := h s List.mem_cons_self
    have hfields := writesFields_fieldText (Totals.natAbs_fieldsTo ht hs)
    have hrest := ih (Totals.fits_moveTo ht hs) fun r hr => h r (List.mem_cons_of_mem s hr)
    exact .cons ⟨hfields, Totals.length_fieldsTo t s⟩ hrest

/-- Digits are no separators. -/
theorem WritesSegment.notMem {piece : List Char} {fields : List Int} (h : WritesSegment piece fields)
    {sep : Char} (hsep : digit? sep = none) : sep ∉ piece := by
  obtain ⟨⟨numbers, hdigits, -⟩, -⟩ := h
  intro hmem
  have hnone : digit? sep ∈ piece.map digit? := List.mem_map_of_mem hmem
  rw [hdigits, hsep] at hnone
  obtain ⟨d, -, hd⟩ := List.mem_map.mp hnone
  exact absurd hd (by simp)

/-- A segment has a digit at least. -/
theorem WritesSegment.ne_nil {piece : List Char} {fields : List Int}
    (h : WritesSegment piece fields) : piece ≠ [] := by
  obtain ⟨hfields, hcount⟩ := h
  rintro rfl
  rcases writesFields_iff.mp hfields with ⟨-, rfl⟩ | hreads
  · simp at hcount
  · exact not_readsOn_nil hreads

/-- The segments of a line with commas between them are taken apart again. -/
theorem filled_split_join {ps : List (List Char)} {fields : List (List Int)}
    (h : List.Forall₂ WritesSegment ps fields) : filled (split ',' (join [','] ps)) = ps := by
  cases ps with
  | nil => rfl
  | cons p ps =>
    rw [split_join _ (List.cons_ne_nil p ps)]
    · apply List.filter_eq_self.mpr
      intro q hq
      obtain ⟨fs, hfs⟩ := exists_right_of_mem h hq
      simpa using hfs.ne_nil
    · intro q hq
      obtain ⟨fs, hfs⟩ := exists_right_of_mem h hq
      exact hfs.notMem (by decide)

/-- Lines hold no semicolons. -/
theorem notMem_join {ps : List (List Char)} {fields : List (List Int)}
    (h : List.Forall₂ WritesSegment ps fields) : ';' ∉ join [','] ps := by
  induction h with
  | nil => simp [join]
  | @cons p fs ps fields hp hrest ih =>
    have hnot : ';' ∉ p := hp.notMem (by decide)
    cases ps with
    | nil => exact hnot
    | cons q ps =>
      rw [join, List.mem_append, List.mem_append, not_or, not_or]
      exact ⟨⟨hnot, by decide⟩, ih⟩

/-! ## The whole text -/

/-- The lines of a text in digits. -/
def lineTexts (t : Totals) : List (List Segment) → List (List Char)
  | [] => []
  | line :: rest =>
    join [','] (pieceTexts t.newLine line) :: lineTexts (endOfLine t.newLine line) rest

/-- The fields of the segments of all lines. -/
def textFields (t : Totals) : List (List Segment) → List (List (List Int))
  | [] => []
  | line :: rest => lineFields t.newLine line :: textFields (endOfLine t.newLine line) rest

/-- The text of mappings. -/
def textOf (m : Mappings) : String :=
  String.ofList (join [';'] (lineTexts .zero m.lines))

variable {lines : List (List Segment)}

theorem lineSegments_textFields (t : Totals) (lines : List (List Segment)) :
    t.lineSegments (textFields t lines) = lines := by
  induction lines generalizing t with
  | nil => rfl
  | cons line lines ih =>
    rw [textFields, Totals.lineSegments, segments_lineFields, behind_lineFields, ih]

theorem admitsLines_textFields (ht : t.fits = true)
    (h : ∀ line ∈ lines, ∀ s ∈ line, FitsSegment s) : t.AdmitsLines (textFields t lines) := by
  induction lines generalizing t with
  | nil => trivial
  | cons line lines ih =>
    have hline := h line List.mem_cons_self
    have hstart := Totals.fits_newLine ht
    refine ⟨admitsAll_lineFields hstart hline, ?_⟩
    rw [behind_lineFields]
    exact ih (fits_endOfLine hstart hline) fun l hl => h l (List.mem_cons_of_mem line hl)

/-- The lines of the text write the fields of the lines. -/
theorem writesLine_lineTexts (ht : t.fits = true)
    (h : ∀ line ∈ lines, ∀ s ∈ line, FitsSegment s) :
    List.Forall₂ WritesLine (lineTexts t lines) (textFields t lines) ∧
      ∀ cs ∈ lineTexts t lines, ';' ∉ cs := by
  induction lines generalizing t with
  | nil => exact ⟨.nil, by simp [lineTexts]⟩
  | cons line lines ih =>
    have hline := h line List.mem_cons_self
    have hstart := Totals.fits_newLine ht
    have hpieces := writesSegment_pieceTexts hstart hline
    have hfirst : WritesLine (join [','] (pieceTexts t.newLine line)) (lineFields t.newLine line) := by
      rw [WritesLine, filled_split_join hpieces]
      exact hpieces
    obtain ⟨hrest, hnot⟩ := ih (fits_endOfLine hstart hline) fun l hl =>
      h l (List.mem_cons_of_mem line hl)
    refine ⟨.cons hfirst hrest, ?_⟩
    intro cs hcs
    rcases List.mem_cons.mp hcs with rfl | hcs
    · exact notMem_join hpieces
    · exact hnot cs hcs

/-- Mappings whose numbers fit 32 bits are read back from their text. There is no text of no lines,
so there has to be one. -/
theorem readMappings_textOf {m : Mappings} (hne : m.lines ≠ [])
    (h : ∀ line ∈ m.lines, ∀ s ∈ line, FitsSegment s) : readMappings (textOf m) = .ok m := by
  have hzero : Totals.zero.fits = true := by decide
  obtain ⟨hlines, hnot⟩ := writesLine_lineTexts hzero h
  have hsplit : split ';' (textOf m).toList = lineTexts .zero m.lines := by
    rw [textOf, String.toList_ofList]
    apply split_join hnot
    obtain ⟨line, rest, hm⟩ := List.exists_cons_of_ne_nil hne
    simp [hm, lineTexts]
  rw [readMappings_eq_ok, hsplit]
  refine ⟨_, hlines, admitsLines_textFields hzero h, ?_⟩
  rw [lineSegments_textFields]

/-- Two lines with segments of all kinds, with columns that go back and with the largest numbers. -/
def sampleMappings : Mappings where
  lines := [
    [⟨9, some ⟨1, 4294967295, 0, some 4294967295⟩⟩, ⟨4, none⟩],
    [],
    [⟨4294967295, some ⟨0, 0, 7, none⟩⟩, ⟨0, some ⟨4294967295, 1, 4294967295, some 2⟩⟩]]

theorem readMappings_sampleMappings :
    sampleMappings.lines ≠ [] ∧ (∀ line ∈ sampleMappings.lines, ∀ s ∈ line, FitsSegment s) ∧
      readMappings (textOf sampleMappings) = .ok sampleMappings := by
  have hne : sampleMappings.lines ≠ [] := by decide
  have hfits : ∀ line ∈ sampleMappings.lines, ∀ s ∈ line, FitsSegment s := by decide
  exact ⟨hne, hfits, readMappings_textOf hne hfits⟩

end AppBundle.SourceMap
