import AppBundle.Proofs.Except
import AppBundle.SourceMap.Vlq
import Mathlib.Data.Nat.Digits.Defs
import Mathlib.Tactic.SplitIfs

/-!
# The fields of a segment

A number is a run of at most twelve digits of which all but the last say that another follows
(`IsNumber`). A segment is read if its characters are the digits of such numbers, one behind the
other, and its fields are then their values (`readFields_eq_ok`).
-/

namespace AppBundle.SourceMap

/-! ## Numbers -/

/-- The digits complete a number of which some digits stand before them. -/
structure Completes (before : Nat) (ds : List Nat) : Prop where
  front : ∀ d ∈ ds.dropLast, 32 ≤ d
  last : ∃ d, ds.getLast? = some d ∧ d < 32
  short : before + ds.length ≤ maxDigits

/-- The digits are those of one number. -/
def IsNumber (ds : List Nat) : Prop :=
  Completes 0 ds

/-- What digits make up, the first one lowest. -/
def magnitude (ds : List Nat) : Nat :=
  Nat.ofDigits 32 (ds.map (· % 32))

/-- The number that digits make up. -/
def numberOf (ds : List Nat) : Int :=
  signed (magnitude ds)

/-- The characters are the digits of numbers, and these are the fields. -/
def WritesFields (cs : List Char) (fields : List Int) : Prop :=
  ∃ numbers : List (List Nat), cs.map digit? = numbers.flatten.map some ∧
    (∀ ds ∈ numbers, IsNumber ds) ∧ fields = numbers.map numberOf

variable {before : Nat} {d : Nat} {ds : List Nat}

theorem magnitude_cons (d : Nat) (ds : List Nat) :
    magnitude (d :: ds) = d % 32 + 32 * magnitude ds := by
  simp [magnitude, Nat.ofDigits_cons]

theorem Completes.ne_nil (h : Completes before ds) : ds ≠ [] := by
  rintro rfl
  obtain ⟨d, hd, -⟩ := h.last
  simp at hd

/-- A digit that says that another follows stands before the rest of its number. -/
theorem completes_cons_of_le (hd : 32 ≤ d) :
    Completes before (d :: ds) ↔ Completes (before + 1) ds := by
  cases ds with
  | nil =>
    constructor
    · intro h
      obtain ⟨x, hx, hlt⟩ := h.last
      obtain rfl : d = x := by simpa using hx
      omega
    · intro h
      exact absurd rfl h.ne_nil
  | cons x xs =>
    have hlength : before + (d :: x :: xs).length = before + 1 + (x :: xs).length := by
      simp only [List.length_cons]
      omega
    constructor
    · intro h
      refine ⟨fun y hy => h.front y ?_, ?_, hlength ▸ h.short⟩
      · rw [List.dropLast_cons_cons]
        exact List.mem_cons_of_mem d hy
      · obtain ⟨y, hy, hlt⟩ := h.last
        exact ⟨y, by simpa [List.getLast?_cons_cons] using hy, hlt⟩
    · intro h
      refine ⟨fun y hy => ?_, ?_, hlength ▸ h.short⟩
      · rw [List.dropLast_cons_cons] at hy
        rcases List.mem_cons.mp hy with rfl | hy
        · exact hd
        · exact h.front y hy
      · obtain ⟨y, hy, hlt⟩ := h.last
        exact ⟨y, by simpa [List.getLast?_cons_cons] using hy, hlt⟩

/-- Any other digit is the last one of its number. -/
theorem completes_cons_of_lt (hd : d < 32) :
    Completes before (d :: ds) ↔ ds = [] ∧ before < maxDigits := by
  constructor
  · intro h
    have hnil : ds = [] := by
      by_contra hne
      obtain ⟨x, xs, rfl⟩ := List.exists_cons_of_ne_nil hne
      have hle := h.front d (by simp)
      omega
    subst hnil
    have hshort := h.short
    simp only [List.length_singleton] at hshort
    exact ⟨rfl, by omega⟩
  · rintro ⟨rfl, hlt⟩
    refine ⟨by simp, ⟨d, rfl, hd⟩, ?_⟩
    rw [List.length_singleton]
    exact hlt

/-! ## Reading -/

/-- What is read behind the first digits of a number: the rest of the number, and then others. -/
def ReadsOn (before value : Nat) (cs : List Char) (fields : List Int) : Prop :=
  ∃ (ds : List Nat) (more : List (List Nat)),
    cs.map digit? = (ds ++ more.flatten).map some ∧ Completes before ds ∧
    (∀ n ∈ more, IsNumber n) ∧
    fields = signed (value + 32 ^ before * magnitude ds) :: more.map numberOf

/-- Fields are none at all, or the first number and those behind it. -/
theorem writesFields_iff {cs : List Char} {fields : List Int} :
    WritesFields cs fields ↔ cs = [] ∧ fields = [] ∨ ReadsOn 0 0 cs fields := by
  constructor
  · rintro ⟨numbers, hdigits, hnumbers, rfl⟩
    cases numbers with
    | nil => exact .inl ⟨by simpa using hdigits, rfl⟩
    | cons ds more =>
      have hfirst : IsNumber ds := hnumbers ds List.mem_cons_self
      refine .inr ⟨ds, more, hdigits, hfirst, fun n hn => hnumbers n (List.mem_cons_of_mem _ hn), ?_⟩
      simp [numberOf]
  · rintro (⟨rfl, rfl⟩ | ⟨ds, more, hdigits, hfirst, hmore, rfl⟩)
    · exact ⟨[], rfl, by simp, rfl⟩
    · refine ⟨ds :: more, hdigits, fun n hn => ?_, by simp [numberOf]⟩
      rcases List.mem_cons.mp hn with rfl | hn
      · exact hfirst
      · exact hmore n hn

variable {value : Nat} {c : Char} {cs : List Char} {fields : List Int}

theorem not_readsOn_nil : ¬ ReadsOn before value [] fields := by
  rintro ⟨ds, more, hdigits, hds, -⟩
  have hnil : ds ++ more.flatten = [] := by simpa using hdigits.symm
  exact hds.ne_nil (List.append_eq_nil_iff.mp hnil).1

theorem ReadsOn.digit (h : ReadsOn before value (c :: cs) fields) :
    ∃ d, digit? c = some d ∧ before < maxDigits := by
  obtain ⟨ds, more, hdigits, hds, -⟩ := h
  obtain ⟨d, ds, rfl⟩ := List.exists_cons_of_ne_nil hds.ne_nil
  have hshort := hds.short
  simp only [List.length_cons] at hshort
  rw [List.map_cons, List.cons_append, List.map_cons] at hdigits
  exact ⟨d, (List.cons.inj hdigits).1, by omega⟩

/-- A digit is the first of those that are still to come of its number. -/
theorem readsOn_cons (hc : digit? c = some d) :
    ReadsOn before value (c :: cs) fields ↔
      ∃ (ds : List Nat) (more : List (List Nat)),
        cs.map digit? = (ds ++ more.flatten).map some ∧ Completes before (d :: ds) ∧
        (∀ n ∈ more, IsNumber n) ∧
        fields = signed (value + 32 ^ before * magnitude (d :: ds)) :: more.map numberOf := by
  constructor
  · rintro ⟨ds, more, hdigits, hds, hmore, hfields⟩
    obtain ⟨x, ds, rfl⟩ := List.exists_cons_of_ne_nil hds.ne_nil
    rw [List.map_cons, List.cons_append, List.map_cons, hc] at hdigits
    obtain ⟨hx, hrest⟩ := List.cons.inj hdigits
    obtain rfl := Option.some.inj hx
    exact ⟨ds, more, hrest, hds, hmore, hfields⟩
  · rintro ⟨ds, more, hrest, hds, hmore, hfields⟩
    refine ⟨d :: ds, more, ?_, hds, hmore, hfields⟩
    rw [List.map_cons, List.cons_append, List.map_cons, hc, hrest]

/-- Behind a digit that says that another follows, its number goes on. -/
theorem readsOn_cons_of_le (hc : digit? c = some d) (hd : 32 ≤ d) :
    ReadsOn before value (c :: cs) fields ↔
      ReadsOn (before + 1) (value + d % 32 * 32 ^ before) cs fields := by
  have hvalue : ∀ ds, value + 32 ^ before * magnitude (d :: ds) =
      value + d % 32 * 32 ^ before + 32 ^ (before + 1) * magnitude ds := by
    intro ds
    rw [magnitude_cons, Nat.pow_succ]
    ring
  simp only [readsOn_cons hc, completes_cons_of_le hd, hvalue]
  rfl

/-- Behind any other digit, other numbers begin. -/
theorem readsOn_cons_of_lt (hc : digit? c = some d) (hd : d < 32) :
    ReadsOn before value (c :: cs) fields ↔
      before < maxDigits ∧ ∃ rest, WritesFields cs rest ∧
        fields = signed (value + d % 32 * 32 ^ before) :: rest := by
  have hvalue : value + 32 ^ before * magnitude [d] = value + d % 32 * 32 ^ before := by
    rw [magnitude_cons, show magnitude [] = 0 from rfl]
    ring
  rw [readsOn_cons hc]
  constructor
  · rintro ⟨ds, more, hrest, hds, hmore, hfields⟩
    obtain ⟨rfl, hbefore⟩ := (completes_cons_of_lt hd).mp hds
    rw [hvalue] at hfields
    exact ⟨hbefore, _, ⟨more, hrest, hmore, rfl⟩, hfields⟩
  · rintro ⟨hbefore, rest, ⟨more, hdigits, hmore, rfl⟩, hfields⟩
    rw [← hvalue] at hfields
    exact ⟨[], more, hdigits, (completes_cons_of_lt hd).mpr ⟨rfl, hbefore⟩, hmore, hfields⟩

/-- The fields behind some digits of a number are those that its other digits and the numbers behind
it make up. -/
theorem readFields_iff {offset : Nat} :
    readFields offset before value cs = .ok fields ↔
      before = 0 ∧ cs = [] ∧ fields = [] ∨ ReadsOn before value cs fields := by
  induction cs generalizing offset before value fields with
  | nil =>
    rw [readFields]
    by_cases hbefore : before = 0
    · simp [hbefore, not_readsOn_nil, eq_comm]
    · simp [hbefore, not_readsOn_nil]
  | cons c cs ih =>
    have hcons : ¬ (before = 0 ∧ c :: cs = [] ∧ fields = []) := by simp
    rw [or_iff_right hcons, readFields]
    cases hc : digit? c with
    | none =>
      -- no digit
      refine iff_of_false (by simp) fun h => ?_
      obtain ⟨d, hd, -⟩ := h.digit
      simp [hc] at hd
    | some d =>
      dsimp only
      by_cases hlong : maxDigits ≤ before
      · -- a digit too many
        rw [if_pos hlong]
        refine iff_of_false (by simp) fun h => ?_
        obtain ⟨-, -, hshort⟩ := h.digit
        omega
      · rw [if_neg hlong]
        by_cases hd : 32 ≤ d
        · -- the number goes on
          rw [if_pos hd, ih, readsOn_cons_of_le hc hd]
          exact or_iff_right (by simp)
        · -- the number ends with this digit
          have hlt : d < 32 := by omega
          have hbefore : before < maxDigits := by omega
          rw [if_neg hd, map_eq_ok, readsOn_cons_of_lt hc hlt, and_iff_right hbefore]
          simp only [ih, true_and, ← writesFields_iff, eq_comm]
          rfl

/-- A segment is read if its characters are the digits of numbers. -/
theorem readFields_eq_ok {offset : Nat} :
    fieldsAt offset cs = .ok fields ↔ WritesFields cs fields := by
  rw [fieldsAt, readFields_iff, writesFields_iff]
  simp

end AppBundle.SourceMap
