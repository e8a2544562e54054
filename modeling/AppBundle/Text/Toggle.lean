/-!
# Toggle points

A class of characters as a list of *toggle points*: sorted code points at which membership changes,
so a character belongs to the class when an odd number of toggle points lie at or below it.
-/

namespace AppBundle.Text

/-- Membership in a class given by its toggle points. -/
def toggledOn (points : List Nat) (c : Char) : Bool :=
  points.countP (· ≤ c.toNat) % 2 == 1

/-- A class without toggle points is empty. -/
theorem toggledOn_nil (c : Char) : toggledOn [] c = false := rfl

/-- A toggle point at or below a character turns its membership around. -/
theorem toggledOn_cons (p : Nat) (points : List Nat) (c : Char) :
    toggledOn (p :: points) c = (toggledOn points c != decide (p ≤ c.toNat)) := by
  unfold toggledOn
  rw [List.countP_cons]
  by_cases h : p ≤ c.toNat
  · simp only [h, decide_true, if_true]
    rcases Nat.mod_two_eq_zero_or_one (points.countP (· ≤ c.toNat)) with e | e <;>
      simp [Nat.add_mod, e]
  · simp [h]

end AppBundle.Text
