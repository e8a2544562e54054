import AppBundle.Proofs.SourceMap.Segments

/-!
# The grammar of mappings

Which texts are mappings (`IsMappings`): every piece that is not empty writes a segment, and the sums
of the fields of all segments so far fit 32 bits, for the column within its line and for the other
totals within the whole text. These texts are read and no others (`readMappings_isOk_iff`).
-/

namespace AppBundle.SourceMap

open AppBundle.Text

/-- The sum of a field over segments; a segment without the field leaves it. -/
def total (k : Nat) (segments : List (List Int)) : Int :=
  (segments.map (·.getD k 0)).sum

/-- The text holds mappings. -/
def IsMappings (text : String) : Prop :=
  ∃ lines, List.Forall₂ WritesLine (split ';' text.toList) lines ∧
    (∀ line ∈ lines, ∀ seen, seen <+: line → FitsWord (total 0 seen)) ∧
    ∀ seen, seen <+: lines.flatten → ∀ k, 0 < k → k < 5 → FitsWord (total k seen)

variable {t : Totals} {k : Nat}

theorem total_cons (k : Nat) (fields : List Int) (segments : List (List Int)) :
    total k (fields :: segments) = fields.getD k 0 + total k segments := by
  simp [total]

theorem total_append (k : Nat) (before behind : List (List Int)) :
    total k (before ++ behind) = total k before + total k behind := by
  simp [total]

namespace Totals

/-! ## Segments of a line -/

theorem fits_behind {line : List (List Int)} (ht : t.fits = true) (h : t.AdmitsAll line) :
    (t.behind line).fits = true := by
  induction line generalizing t with
  | nil => exact ht
  | cons fields line ih => exact ih (fits_plus h.1) h.2

theorem value_behind {line : List (List Int)} (h : t.AdmitsAll line) (hk : k < 5) :
    (t.behind line).value k = t.value k + total k line := by
  induction line generalizing t with
  | nil => simp [behind, total]
  | cons fields line ih =>
    have hrest := ih h.2
    rw [value_plus h.1 hk] at hrest
    rw [behind, List.foldl_cons, ← behind, hrest, total_cons]
    omega

/-- Segments are admitted one after the other if all sums on the way fit. -/
theorem admitsAll_iff {line : List (List Int)} (ht : t.fits = true) :
    t.AdmitsAll line ↔
      ∀ seen, seen <+: line → ∀ k < 5, FitsWord (t.value k + total k seen) := by
  induction line generalizing t with
  | nil =>
    refine iff_of_true trivial ?_
    intro seen hseen k hk
    obtain rfl := List.prefix_nil.mp hseen
    have hvalue := fits_iff.mp ht k hk
    simpa [total] using hvalue
  | cons fields line ih =>
    constructor
    · -- what is admitted has sums that fit
      intro h seen hseen k hk
      rcases List.prefix_cons_iff.mp hseen with rfl | ⟨rest, rfl, hrest⟩
      · have hvalue := fits_iff.mp ht k hk
        simpa [total] using hvalue
      · have hsum := (ih (fits_plus h.1)).mp h.2 rest hrest k hk
        rw [value_plus h.1 hk] at hsum
        rwa [total_cons, ← Int.add_assoc]
    · -- what has sums that fit is admitted
      intro h
      have hfirst : t.Admits fields := by
        intro k hk
        have hsum := h [fields] ⟨line, rfl⟩ k hk
        simpa [total] using hsum
      refine ⟨hfirst, (ih (fits_plus hfirst)).mpr ?_⟩
      intro seen hseen k hk
      have hsum := h (fields :: seen) (List.cons_prefix_cons.mpr ⟨rfl, hseen⟩) k hk
      rw [value_plus hfirst hk]
      rwa [total_cons, ← Int.add_assoc] at hsum

/-! ## Lines of a text -/

theorem prefix_append_cases {α : Type} {seen front back : List α} (h : seen <+: front ++ back) :
    seen <+: front ∨ ∃ rest, seen = front ++ rest ∧ rest <+: back := by
  obtain ⟨behind, h⟩ := h
  rcases List.append_eq_append_iff.mp h with ⟨mid, hfront, -⟩ | ⟨mid, hseen, hback⟩
  · exact .inl ⟨mid, hfront.symm⟩
  · exact .inr ⟨mid, hseen, ⟨behind, hback.symm⟩⟩

/-- Lines are admitted one after the other if all sums on the way fit, those of the column within
their line. -/
theorem admitsLines_iff {lines : List (List (List Int))} (ht : t.fits = true) :
    t.AdmitsLines lines ↔
      (∀ line ∈ lines, ∀ seen, seen <+: line → FitsWord (total 0 seen)) ∧
        ∀ seen, seen <+: lines.flatten → ∀ k, 0 < k → k < 5 →
          FitsWord (t.value k + total k seen) := by
  induction lines generalizing t with
  | nil =>
    refine iff_of_true trivial ⟨by simp, ?_⟩
    intro seen hseen k _ hk
    obtain rfl : seen = [] := List.prefix_nil.mp hseen
    have hvalue := fits_iff.mp ht k hk
    simpa [total] using hvalue
  | cons line lines ih =>
    have hstart := fits_newLine ht
    have hcolumn : ∀ seen, t.newLine.value 0 + total 0 seen = total 0 seen := by
      intro seen
      exact Int.zero_add _
    constructor
    · -- lines that are admitted have sums that fit
      rintro ⟨hline, hlines⟩
      have hsums := (admitsAll_iff hstart).mp hline
      obtain ⟨hcolumns, hrest⟩ := (ih (fits_behind hstart hline)).mp hlines
      refine ⟨?_, ?_⟩
      · intro l hl seen hseen
        rcases List.mem_cons.mp hl with rfl | hl
        · have hsum := hsums seen hseen 0 (by decide)
          rwa [hcolumn] at hsum
        · exact hcolumns l hl seen hseen
      · intro seen hseen k hpos hk
        rw [List.flatten_cons] at hseen
        rcases prefix_append_cases hseen with hfront | ⟨rest, rfl, hback⟩
        · have hsum := hsums seen hfront k hk
          rwa [value_newLine hpos] at hsum
        · have hsum := hrest rest hback k hpos hk
          rw [value_behind hline hk, value_newLine hpos] at hsum
          rwa [total_append, ← Int.add_assoc]
    · -- lines whose sums fit are admitted
      rintro ⟨hcolumns, hsums⟩
      have hline : t.newLine.AdmitsAll line := by
        rw [admitsAll_iff hstart]
        intro seen hseen k hk
        by_cases hzero : k = 0
        · subst hzero
          rw [hcolumn]
          exact hcolumns line List.mem_cons_self seen hseen
        · have hpos : 0 < k := by omega
          rw [value_newLine hpos]
          exact hsums seen (hseen.trans (List.prefix_append line _)) k hpos hk
      refine ⟨hline, (ih (fits_behind hstart hline)).mpr ⟨?_, ?_⟩⟩
      · intro l hl
        exact hcolumns l (List.mem_cons_of_mem line hl)
      · intro seen hseen k hpos hk
        have hsum := hsums (line ++ seen) ((List.prefix_append_right_inj line).mpr hseen) k hpos hk
        rw [value_behind hline hk, value_newLine hpos]
        rwa [total_append, ← Int.add_assoc] at hsum

end Totals

/-- A text is read if and only if it holds mappings. -/
theorem readMappings_isOk_iff {text : String} :
    (∃ m, readMappings text = .ok m) ↔ IsMappings text := by
  have hzero : Totals.zero.fits = true := by decide
  have hvalue : ∀ k (n : Int), Totals.zero.value k + n = n := by
    intro k n
    have hstart : Totals.zero.value k = 0 := by
      rcases k with _ | _ | _ | _ | k <;> rfl
    rw [hstart, Int.zero_add]
  simp only [readMappings_eq_ok, Totals.admitsLines_iff hzero, hvalue]
  constructor
  · rintro ⟨-, lines, hlines, hsums, -⟩
    exact ⟨lines, hlines, hsums⟩
  · rintro ⟨lines, hlines, hsums⟩
    exact ⟨_, lines, hlines, hsums, rfl⟩

end AppBundle.SourceMap
