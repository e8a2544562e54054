import AppBundle.Proofs.SourceMap.Numbers
import AppBundle.SourceMap.Mappings
import Mathlib.Algebra.BigOperators.Group.List.Basic
import Mathlib.Data.List.Forall2
import Mathlib.Tactic.IntervalCases

/-!
# Running totals

A segment adds its fields to the running totals. It is read if it has one, four or five fields and
all totals fit 32 bits behind it (`readSegment_eq_ok`); a line is read if all of its segments are,
one after the other (`readPieces_eq_ok`), and so is a text of lines (`readLines_eq_ok`).
-/

namespace AppBundle.SourceMap

open AppBundle.Text

/-- The number fits 32 bits. -/
def FitsWord (n : Int) : Prop :=
  0 ≤ n ∧ n ≤ maxWord32

/-- The characters are the digits of one, four or five numbers, and these are the fields. -/
def WritesSegment (cs : List Char) (fields : List Int) : Prop :=
  WritesFields cs fields ∧ (fields.length = 1 ∨ fields.length = 4 ∨ fields.length = 5)

namespace Totals

/-- The totals in the order of the fields of a segment. -/
def value (t : Totals) : Nat → Int
  | 0 => t.column
  | 1 => t.source
  | 2 => t.line
  | 3 => t.sourceColumn
  | _ => t.name

/-- The totals with the fields of a segment added. -/
def plus (t : Totals) (fields : List Int) : Totals where
  column := (t.value 0 + fields.getD 0 0).toNat
  source := (t.value 1 + fields.getD 1 0).toNat
  line := (t.value 2 + fields.getD 2 0).toNat
  sourceColumn := (t.value 3 + fields.getD 3 0).toNat
  name := (t.value 4 + fields.getD 4 0).toNat

/-- The totals before the first segment of a line. -/
def newLine (t : Totals) : Totals :=
  { t with column := 0 }

/-- All totals fit 32 bits when the fields are added. -/
def Admits (t : Totals) (fields : List Int) : Prop :=
  ∀ k < 5, FitsWord (t.value k + fields.getD k 0)

/-- The segment with so many fields that ends at the totals. -/
def segment (t : Totals) (count : Nat) : Segment where
  column := t.column
  source :=
    if count = 1 then none
    else some ⟨t.source, t.line, t.sourceColumn, if count = 5 then some t.name else none⟩

variable {t t' : Totals} {fields : List Int} {n offset : Nat} {s : Segment}

theorem forall_lt_five {P : Nat → Prop} : (∀ k < 5, P k) ↔ P 0 ∧ P 1 ∧ P 2 ∧ P 3 ∧ P 4 := by
  constructor
  · intro h
    exact ⟨h 0 (by decide), h 1 (by decide), h 2 (by decide), h 3 (by decide), h 4 (by decide)⟩
  · rintro ⟨h₀, h₁, h₂, h₃, h₄⟩ k hk
    interval_cases k <;> assumption

/-- Behind fields that are admitted, the totals are what they should be. -/
theorem value_plus (h : t.Admits fields) {k : Nat} (hk : k < 5) :
    (t.plus fields).value k = t.value k + fields.getD k 0 := by
  have hpos := (h k hk).1
  interval_cases k <;> exact Int.toNat_of_nonneg hpos

theorem fits_iff : t.fits = true ↔ ∀ k < 5, FitsWord (t.value k) := by
  rw [forall_lt_five]
  simp only [fits, FitsWord, value, Bool.and_eq_true, decide_eq_true_eq]
  omega

theorem fits_plus (h : t.Admits fields) : (t.plus fields).fits = true := by
  rw [fits_iff]
  intro k hk
  rw [value_plus h hk]
  exact h k hk

theorem fits_newLine (h : t.fits = true) : t.newLine.fits = true := by
  rw [fits_iff] at h ⊢
  intro k hk
  have hk' := h k hk
  interval_cases k
  · exact ⟨Int.le_refl 0, Int.natCast_nonneg maxWord32⟩
  all_goals exact hk'

theorem value_newLine {k : Nat} (hk : 0 < k) : t.newLine.value k = t.value k := by
  rcases k with _ | _ | _ | _ | k
  · exact absurd hk (Nat.lt_irrefl 0)
  all_goals rfl

/-! ## One segment -/

theorem shift_eq_ok {field : MappingField} {line total m : Nat} {delta : Int} :
    shift field line total delta = .ok m ↔
      0 ≤ (total : Int) + delta ∧ m = ((total : Int) + delta).toNat := by
  unfold shift
  by_cases h : (total : Int) + delta < 0
  · simp only [h, if_true, reduceCtorEq, false_iff]
    omega
  · simp only [h, if_false, Except.ok.injEq]
    constructor
    · rintro rfl
      exact ⟨by omega, rfl⟩
    · rintro ⟨-, rfl⟩
      rfl

/-- A segment is made up of one, four or five fields that leave no total below zero. -/
theorem apply_eq_ok {line : Nat} :
    t.apply line fields = .ok (t', s) ↔
      (fields.length = 1 ∨ fields.length = 4 ∨ fields.length = 5) ∧
        (∀ k < 5, 0 ≤ t.value k + fields.getD k 0) ∧ t' = t.plus fields ∧
        s = t'.segment fields.length := by
  rw [forall_lt_five]
  -- one case for each number of fields, and one for more than five
  rcases fields with _ | ⟨_, _ | ⟨_, _ | ⟨_, _ | ⟨_, _ | ⟨_, _ | ⟨_, _⟩⟩⟩⟩⟩⟩
  · simp [apply]
  · simp [apply, bind_eq_ok, shift_eq_ok, plus, segment, value, pure, Except.pure]
    intro _
    constructor <;> rintro ⟨rfl, rfl⟩ <;> exact ⟨rfl, rfl⟩
  · simp [apply, bind_eq_ok, throw, throwThe, MonadExceptOf.throw]
  · simp [apply, bind_eq_ok, throw, throwThe, MonadExceptOf.throw]
  · simp [apply, bind_eq_ok, shift_eq_ok, plus, segment, value, pure, Except.pure, and_assoc]
    intro _ _ _ _
    constructor <;> rintro ⟨rfl, rfl⟩ <;> exact ⟨rfl, rfl⟩
  · simp [apply, bind_eq_ok, shift_eq_ok, plus, segment, value, pure, Except.pure, and_assoc]
    intro _ _ _ _ _
    constructor <;> rintro ⟨rfl, rfl⟩ <;> exact ⟨rfl, rfl⟩
  · simp [apply, bind_eq_ok, throw, throwThe, MonadExceptOf.throw]

end Totals

open Totals

variable {t t' : Totals} {n offset : Nat}

/-- A segment is read if its characters write one and the totals admit its fields. -/
theorem readSegment_eq_ok {piece : List Char} {s : Segment} :
    readSegment t n offset piece = .ok (t', s) ↔
      ∃ fields, WritesSegment piece fields ∧ t.Admits fields ∧ t' = t.plus fields ∧
        s = t'.segment fields.length := by
  unfold readSegment
  simp only [bind_eq_ok, readFields_eq_ok, Prod.exists, apply_eq_ok]
  constructor
  · rintro ⟨fields, hfields, u, s', ⟨hcount, hpos, rfl, rfl⟩, h⟩
    by_cases hfits : (t.plus fields).fits = true
    · rw [if_pos hfits] at h
      obtain ⟨rfl, rfl⟩ := Prod.mk.inj (Except.ok.inj h)
      refine ⟨fields, ⟨hfields, hcount⟩, fun k hk => ⟨hpos k hk, ?_⟩, rfl, rfl⟩
      have hvalue := (fits_iff.mp hfits k hk).2
      have hsum : (t.plus fields).value k = t.value k + fields.getD k 0 := by
        have hk' := hpos k hk
        interval_cases k <;> exact Int.toNat_of_nonneg hk'
      rwa [hsum] at hvalue
    · rw [if_neg hfits] at h
      exact absurd h (by simp [throw, throwThe, MonadExceptOf.throw])
  · rintro ⟨fields, ⟨hfields, hcount⟩, hadmits, rfl, rfl⟩
    refine ⟨fields, hfields, _, _, ⟨hcount, fun k hk => (hadmits k hk).1, rfl, rfl⟩, ?_⟩
    rw [if_pos (fits_plus hadmits)]
    rfl

/-! ## Segments of a line -/

namespace Totals

/-- The totals admit the fields of one segment after the other. -/
def AdmitsAll (t : Totals) : List (List Int) → Prop
  | [] => True
  | fields :: rest => t.Admits fields ∧ (t.plus fields).AdmitsAll rest

/-- The segments with the given fields, one after the other. -/
def segments (t : Totals) : List (List Int) → List Segment
  | [] => []
  | fields :: rest => (t.plus fields).segment fields.length :: (t.plus fields).segments rest

/-- The totals behind segments. -/
def behind (t : Totals) (line : List (List Int)) : Totals :=
  line.foldl plus t

end Totals

/-- The pieces of a line that are not empty. -/
def filled (pieces : List (List Char)) : List (List Char) :=
  pieces.filter (!·.isEmpty)

/-- What is on the left side of a relation of lists is related to something on the right. -/
theorem exists_right_of_mem {α β : Type} {R : α → β → Prop} {as : List α} {bs : List β}
    (h : List.Forall₂ R as bs) {a : α} (ha : a ∈ as) : ∃ b, R a b := by
  induction h with
  | nil => exact absurd ha List.not_mem_nil
  | @cons x b as bs hx _ ih =>
    rcases List.mem_cons.mp ha with rfl | ha
    · exact ⟨b, hx⟩
    · exact ih ha

/-- A line is read if all of its segments are. -/
theorem readPieces_eq_ok {pieces : List (List Char)} {ss : List Segment} :
    readPieces n t offset pieces = .ok (t', ss) ↔
      ∃ line, List.Forall₂ WritesSegment (filled pieces) line ∧ t.AdmitsAll line ∧
        t' = t.behind line ∧ ss = t.segments line := by
  induction pieces generalizing t offset t' ss with
  | nil =>
    rw [readPieces]
    constructor
    · intro h
      obtain ⟨rfl, rfl⟩ := Prod.mk.inj (Except.ok.inj h)
      exact ⟨[], .nil, trivial, rfl, rfl⟩
    · rintro ⟨line, hline, -, rfl, rfl⟩
      cases hline
      rfl
  | cons piece pieces ih =>
    rw [readPieces]
    by_cases hempty : piece.isEmpty = true
    · rw [if_pos hempty, ih]
      simp [filled, hempty]
    · have hfilled : filled (piece :: pieces) = piece :: filled pieces := by simp [filled, hempty]
      rw [if_neg hempty, hfilled]
      simp only [bind_eq_ok, Prod.exists, readSegment_eq_ok, ih]
      constructor
      · rintro ⟨u, s, ⟨fields, hpiece, hadmits, rfl, rfl⟩, u', ss', ⟨line, hline, hall, rfl, rfl⟩, h⟩
        obtain ⟨rfl, rfl⟩ := Prod.mk.inj (Except.ok.inj h)
        exact ⟨fields :: line, .cons hpiece hline, ⟨hadmits, hall⟩, rfl, rfl⟩
      · rintro ⟨_, hline, hall, rfl, rfl⟩
        obtain _ | @⟨_, fields, _, line, hpiece, hline⟩ := hline
        exact ⟨_, _, ⟨fields, hpiece, hall.1, rfl, rfl⟩, _, _, ⟨line, hline, hall.2, rfl, rfl⟩, rfl⟩

/-! ## Lines of a text -/

namespace Totals

/-- The totals admit the segments of one line after the other. -/
def AdmitsLines (t : Totals) : List (List (List Int)) → Prop
  | [] => True
  | line :: rest => t.newLine.AdmitsAll line ∧ (t.newLine.behind line).AdmitsLines rest

/-- The segments of lines, one line after the other. -/
def lineSegments (t : Totals) : List (List (List Int)) → List (List Segment)
  | [] => []
  | line :: rest => t.newLine.segments line :: (t.newLine.behind line).lineSegments rest

end Totals

/-- The characters of a line are those of its segments. -/
def WritesLine (cs : List Char) (line : List (List Int)) : Prop :=
  List.Forall₂ WritesSegment (filled (split ',' cs)) line

/-- A text is read if all of its lines are. -/
theorem readLines_eq_ok {texts : List (List Char)} {sss : List (List Segment)} :
    readLines t n offset texts = .ok sss ↔
      ∃ lines, List.Forall₂ WritesLine texts lines ∧ t.AdmitsLines lines ∧
        sss = t.lineSegments lines := by
  induction texts generalizing t n offset sss with
  | nil =>
    rw [readLines]
    constructor
    · intro h
      obtain rfl := Except.ok.inj h
      exact ⟨[], .nil, trivial, rfl⟩
    · rintro ⟨lines, hlines, -, rfl⟩
      cases hlines
      rfl
  | cons cs texts ih =>
    rw [readLines]
    simp only [bind_eq_ok, Prod.exists, readPieces_eq_ok, ih]
    constructor
    · rintro ⟨u, ss, ⟨line, hline, hall, rfl, rfl⟩, sss', ⟨lines, hlines, hrest, rfl⟩, h⟩
      obtain rfl := Except.ok.inj h
      exact ⟨line :: lines, .cons hline hlines, ⟨hall, hrest⟩, rfl⟩
    · rintro ⟨_, hlines, hall, rfl⟩
      obtain _ | @⟨_, line, _, lines, hline, hlines⟩ := hlines
      exact ⟨_, _, ⟨line, hline, hall.1, rfl, rfl⟩, _, ⟨lines, hlines, hall.2, rfl⟩, rfl⟩

/-- Mappings are read if all lines of the text are. -/
theorem readMappings_eq_ok {text : String} {m : Mappings} :
    readMappings text = .ok m ↔
      ∃ lines, List.Forall₂ WritesLine (split ';' text.toList) lines ∧
        Totals.zero.AdmitsLines lines ∧ m = ⟨Totals.zero.lineSegments lines⟩ := by
  rw [readMappings, map_eq_ok]
  simp only [readLines_eq_ok]
  constructor
  · rintro ⟨_, ⟨lines, hlines, hadmits, rfl⟩, rfl⟩
    exact ⟨lines, hlines, hadmits, rfl⟩
  · rintro ⟨lines, hlines, hadmits, rfl⟩
    exact ⟨_, ⟨lines, hlines, hadmits, rfl⟩, rfl⟩

end AppBundle.SourceMap
