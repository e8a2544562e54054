import Mathlib.Data.List.Nodup
import Mathlib.Tactic.Common

/-!
# Sorting by a key

Sorting from the largest key to the least keeps elements with one key in their order
(`filter_mergeSort`). Where keys differ there is one order, whatever order the elements are given in
(`mergeSort_eq_of_perm`).
-/

namespace AppBundle

variable {α : Type} {key : α → Nat} {xs ys : List α}

theorem descending_trans (key : α → Nat) (a b c : α) (hab : decide (key b ≤ key a) = true)
    (hbc : decide (key c ≤ key b) = true) : decide (key c ≤ key a) = true :=
  decide_eq_true (Nat.le_trans (of_decide_eq_true hbc) (of_decide_eq_true hab))

theorem descending_total (key : α → Nat) (a b : α) :
    (decide (key b ≤ key a) || decide (key a ≤ key b)) = true := by
  simpa using Nat.le_total (key b) (key a)

theorem pairwise_mergeSort (key : α → Nat) (xs : List α) :
    (xs.mergeSort fun a b => key b ≤ key a).Pairwise fun a b => key b ≤ key a :=
  (List.pairwise_mergeSort (descending_trans key) (descending_total key) xs).imp of_decide_eq_true

/-- Sorting keeps elements with one key in their order. -/
theorem filter_mergeSort (key : α → Nat) (xs : List α) (n : Nat) :
    (xs.mergeSort fun a b => key b ≤ key a).filter (key · = n) = xs.filter (key · = n) := by
  have hsorted : (xs.filter (key · = n)).Pairwise
      (fun a b => decide (key b ≤ key a) = true) := by
    refine List.pairwise_iff_forall_sublist.mpr fun {a b} hab => ?_
    have ha := of_decide_eq_true (List.mem_filter.mp (hab.subset (by simp : a ∈ [a, b]))).2
    have hb := of_decide_eq_true (List.mem_filter.mp (hab.subset (by simp : b ∈ [a, b]))).2
    exact decide_eq_true (by omega)
  have hsub : (xs.filter (key · = n)).Sublist (xs.mergeSort fun a b => key b ≤ key a) :=
    List.sublist_mergeSort (descending_trans key) (descending_total key) hsorted
      List.filter_sublist
  have hfilter := hsub.filter (key · = n)
  simp only [List.filter_filter, Bool.and_self] at hfilter
  exact (hfilter.eq_of_length ((List.mergeSort_perm _ _).filter _).length_eq.symm).symm

/-- A list from the largest key to the least is what sorting makes of any order of its elements, if
no two have one key. -/
theorem mergeSort_eq_of_perm (hperm : xs.Perm ys) (hkeys : (xs.map key).Nodup)
    (hsorted : ys.Pairwise fun a b => key b ≤ key a) :
    (xs.mergeSort fun a b => key b ≤ key a) = ys := by
  refine ((List.mergeSort_perm _ _).trans hperm).eq_of_pairwise ?_ (pairwise_mergeSort key xs)
    hsorted
  intro a b ha hb hba hab
  have ha : a ∈ xs := (List.mergeSort_perm _ _).subset ha
  have hb : b ∈ xs := hperm.symm.subset hb
  exact List.inj_on_of_nodup_map hkeys ha hb (Nat.le_antisymm hab hba)

end AppBundle
