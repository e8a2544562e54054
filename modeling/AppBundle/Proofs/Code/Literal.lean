import AppBundle.Code.Literal
import AppBundle.Proofs.Text.Numeral
import Mathlib.Tactic.Common

/-!
# Texts that need no escapes

A text without quotes, backslashes, line ends and tabs stands in a literal as it is.
-/

namespace AppBundle

/-- Line ends are written as letters. -/
theorem Code.notMem_escape {c : Char} (hc : c = '\n' ∨ c = '\r') (s : String) :
    c ∉ (Code.escape s).toList := by
  have hchar : ∀ d, c ∉ Code.escapeChar d := by
    intro d hd
    unfold Code.escapeChar at hd
    split_ifs at hd with hquote hslash hfeed hreturn htab
    all_goals rcases hc with rfl | rfl
    all_goals simp at hd
    · exact hfeed hd.symm
    · exact hreturn hd.symm
  rw [Code.escape, String.toList_ofList]
  intro h
  obtain ⟨d, -, hd⟩ := List.mem_flatMap.mp h
  exact hchar d hd

/-- A string whose characters stand in a literal as they are. -/
def Plain (s : String) : Prop := ∀ c ∈ s.toList, Code.escapeChar c = [c]

namespace Plain

@[simp] theorem append_iff {s t : String} : Plain (s ++ t) ↔ Plain s ∧ Plain t := by
  simp [Plain, or_imp, forall_and]

/-- The form for literals. -/
theorem ofChars {cs : List Char} (h : cs.all (fun c => Code.escapeChar c == [c]) = true) :
    Plain (String.ofList cs) := by
  intro c hc
  rw [String.toList_ofList] at hc
  exact beq_iff_eq.mp (List.all_eq_true.mp h c hc)

/-- Digits stand for themselves. -/
@[simp] theorem decimal (n : Nat) : Plain (decimal n) := by
  intro c hc
  have hne : ∀ x : Char, x.isDigit = false → c ≠ x := fun x hx => ne_of_mem_decimal hx hc
  rw [Code.escapeChar, if_neg (hne _ (by decide)), if_neg (hne _ (by decide)),
    if_neg (hne _ (by decide)), if_neg (hne _ (by decide)), if_neg (hne _ (by decide))]

theorem escape {s : String} (h : Plain s) : Code.escape s = s := by
  have hchars : ∀ cs : List Char, (∀ c ∈ cs, Code.escapeChar c = [c]) →
      cs.flatMap Code.escapeChar = cs := by
    intro cs hcs
    induction cs with
    | nil => rfl
    | cons c cs ih =>
      rw [List.flatMap_cons, hcs c List.mem_cons_self,
        ih fun d hd => hcs d (List.mem_cons_of_mem c hd)]
      rfl
  rw [Code.escape, hchars s.toList h, String.ofList_toList]

/-- The literal of such a string is the string between quotes. -/
theorem literal {s : String} (h : Plain s) : Code.literal s = "\"" ++ s ++ "\"" := by
  rw [Code.literal, h.escape]

end Plain

end AppBundle
