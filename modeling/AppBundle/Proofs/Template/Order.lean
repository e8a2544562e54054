import AppBundle.Proofs.Sort
import AppBundle.Proofs.Template.Calls

/-!
# The order in which handlers are given

Whether the attribute of a handler is replaced hangs on the handlers behind it: an attribute that is
replaced shuts out those that reach into it, and one that is skipped lets them in. These decisions
are made from the last attribute to the first. If no two handlers begin at one offset there is only
one such order, so what becomes of a template does not depend on the order in which its handlers are
given (`spliceHandlers_perm`).
-/

namespace AppBundle

variable {hs hs' : List Handler}

/-- No two handlers that have a place in the template begin at one offset. -/
def BeginApart (hs : List Handler) : Prop :=
  ((hs.filter (!·.isSignIn)).map Handler.first).Nodup
  deriving Decidable

/-- Handlers in any order are met as those that stand from the last to the first already. -/
theorem placedHandlers_of_perm {placed : List Handler} (hapart : BeginApart hs)
    (hperm : (hs.filter (!·.isSignIn)).Perm placed)
    (hplaced : placed.Pairwise fun g h => h.first ≤ g.first) : placedHandlers hs = placed :=
  mergeSort_eq_of_perm hperm hapart hplaced

theorem placedHandlers_perm (hperm : hs.Perm hs') (hapart : BeginApart hs) :
    placedHandlers hs = placedHandlers hs' := by
  have hplaced : (hs'.filter (!·.isSignIn)).Perm (placedHandlers hs') :=
    (List.mergeSort_perm _ _).symm
  exact placedHandlers_of_perm hapart ((hperm.filter _).trans hplaced) (placedHandlers_order hs').1

/-- Handlers that begin apart may be given in any order: the template becomes the same, and the same
handlers are skipped, for the same reasons. -/
theorem spliceHandlers_perm (template : String) (hperm : hs.Perm hs') (hapart : BeginApart hs) :
    spliceHandlers template hs = spliceHandlers template hs' := by
  rw [spliceHandlers, spliceHandlers, placedHandlers_perm hperm hapart]

/-- Handlers whose attributes reach into each other. The last does not begin with its name, so it
shuts out neither of the others; the one inside is replaced, so the one around it is skipped. -/
def nestedButtons : List Handler := [
  buttonHandler "__h0" "onClick=\x27\x27" 3 24, buttonHandler "__h1" "" 12 22,
  buttonHandler "__h2" "lick" 15 19]

theorem nestedButtons_reversed :
    nestedButtons.reverse.Perm nestedButtons ∧ BeginApart nestedButtons.reverse ∧
      spliceHandlers "<b onClick=\"onClick=\x27\x27 \"/>" nestedButtons.reverse =
        spliceHandlers "<b onClick=\"onClick=\x27\x27 \"/>" nestedButtons ∧
      (spliceHandlers "<b onClick=\"onClick=\x27\x27 \"/>" nestedButtons).text =
        "<b onClick=\"onClick=\"__melker.__h1(event)\" \"/>" := by
  have hperm : nestedButtons.reverse.Perm nestedButtons := List.reverse_perm _
  have hapart : BeginApart nestedButtons.reverse := by decide
  have hsame := spliceHandlers_perm "<b onClick=\"onClick=\x27\x27 \"/>" hperm hapart
  have hplaced : placedHandlers nestedButtons.reverse = nestedButtons.reverse := by
    refine placedHandlers_of_perm hapart ?_ (by decide)
    rw [List.filter_eq_self.mpr (by decide)]
  refine ⟨hperm, hapart, hsame, ?_⟩
  rw [← hsame, spliceHandlers, hplaced]
  decide +kernel

end AppBundle
