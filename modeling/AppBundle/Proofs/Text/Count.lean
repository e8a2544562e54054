import AppBundle.Proofs.Text.Search
import Mathlib.Tactic.Common

/-!
# Counting occurrences

Occurrences are counted from left to right, each behind the end of the one before. A text that occurs
nowhere is counted zero times and one that occurs at a single place once, whatever the scan passes
over: it cannot miss the place, and there is no other that it could meet.
-/

namespace AppBundle.Text

variable {needle cs front back : List Char}

/-- Nothing is counted while the end of an occurrence is passed over. -/
theorem countFrom_length (needle passed rest : List Char) :
    countFrom needle passed.length (passed ++ rest) = count needle rest := by
  induction passed with
  | nil => rfl
  | cons c passed ih => exact ih

theorem count_cons_of_absent {c : Char} (h : ¬ needle <+: c :: cs) :
    count needle (c :: cs) = count needle cs := by
  rw [count, countFrom, if_neg (mt isSome_after?_iff.mp h), count]

/-- An occurrence at the front is counted, and counting goes on behind it. -/
theorem count_append (hne : needle ≠ []) (back : List Char) :
    count needle (needle ++ back) = count needle back + 1 := by
  cases needle with
  | nil => exact absurd rfl hne
  | cons c needle =>
    have hfront : (after? (c :: needle) (c :: (needle ++ back))).isSome :=
      isSome_after?_iff.mpr ⟨back, rfl⟩
    rw [List.cons_append, count, countFrom, if_pos hfront, List.length_cons,
      Nat.add_sub_cancel, countFrom_length]

theorem count_eq_zero (h : ¬ needle <:+: cs) : count needle cs = 0 := by
  induction cs with
  | nil => rfl
  | cons c cs ih =>
    have hprefix : ¬ needle <+: c :: cs := fun hp => h hp.isInfix
    have hrest : ¬ needle <:+: cs := fun hi => h (List.infix_cons hi)
    rw [count_cons_of_absent hprefix, ih hrest]

/-- A text that occurs at one place only is counted once. -/
theorem count_eq_one (hne : needle ≠ [])
    (hunique : ∀ front' back', front ++ (needle ++ back) = front' ++ (needle ++ back') →
      front' = front) :
    count needle (front ++ (needle ++ back)) = 1 := by
  induction front with
  | nil =>
    -- an occurrence behind the one at the front would be at another place
    have hrest : ¬ needle <:+: back := by
      rintro ⟨before, behind, rfl⟩
      have hplace := hunique (needle ++ before) behind (by simp)
      exact hne (List.append_eq_nil_iff.mp hplace).1
    rw [List.nil_append, count_append hne, count_eq_zero hrest]
  | cons c front ih =>
    have hprefix : ¬ needle <+: c :: (front ++ (needle ++ back)) := by
      rintro ⟨behind, hbehind⟩
      exact absurd (hunique [] behind hbehind.symm) (by simp)
    rw [List.cons_append, count_cons_of_absent hprefix]
    refine ih fun front' back' heq => ?_
    have hplace := hunique (c :: front') back' (congrArg (c :: ·) heq)
    exact List.tail_eq_of_cons_eq hplace

end AppBundle.Text
