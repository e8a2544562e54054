import AppBundle.Text.Numeral
import Mathlib.Tactic.Common

/-!
# Numerals

A numeral consists of digits, so it holds none of the characters that have a meaning of their own in
a path, a line or a literal (`ne_of_mem_decimal`), and it tells the number that it writes.
-/

namespace AppBundle

variable {n : Nat} {c x : Char}

theorem Text.isDigit_of_mem_numeral (h : c ∈ Text.numeral n) : c.isDigit = true :=
  Nat.isDigit_of_mem_toDigits (by decide) (by decide) h

theorem ne_of_mem_decimal (hx : x.isDigit = false) (h : c ∈ (decimal n).toList) : c ≠ x := by
  rw [decimal, String.toList_ofList] at h
  rintro rfl
  exact absurd (Text.isDigit_of_mem_numeral h) (by simp [hx])

theorem decimal_injective {m n : Nat} (h : decimal m = decimal n) : m = n := by
  have hdigits := congrArg (fun s => Nat.ofDigitChars 10 s.toList 0) h
  simpa [decimal, Text.numeral, Nat.ofDigitChars_toDigits] using hdigits

namespace Text

/-- Digits are read as the number that they write. -/
theorem readDigits_of_digits {bound : Nat} {ds : List Char} (hds : ∀ c ∈ ds, c.isDigit = true)
    {before : Nat} (hbound : Nat.ofDigitChars 10 ds before ≤ bound) :
    readDigits bound before ds = .ok (Nat.ofDigitChars 10 ds before) := by
  have hgrows : ∀ (ds : List Char) n, n ≤ Nat.ofDigitChars 10 ds n := by
    intro ds
    induction ds with
    | nil => exact fun n => Nat.le_refl n
    | cons c ds ih =>
      intro n
      rw [Nat.ofDigitChars_cons]
      exact Nat.le_trans (by omega) (ih _)
  induction ds generalizing before with
  | nil => rfl
  | cons c ds ih =>
    rw [Nat.ofDigitChars_cons, Nat.mul_comm] at hbound
    have hfits := Nat.le_trans (hgrows ds _) hbound
    have hrest := ih (fun d hd => hds d (List.mem_cons_of_mem c hd)) hbound
    rw [readDigits, digitValue?, if_pos (hds c List.mem_cons_self), Nat.ofDigitChars_cons,
      Nat.mul_comm 10]
    dsimp only
    rw [if_pos hfits, hrest]

theorem readNumeral_numeral {bound n : Nat} (h : n ≤ bound) :
    readNumeral bound (numeral n) = .ok n := by
  have hvalue : Nat.ofDigitChars 10 (numeral n) 0 = n :=
    Nat.ofDigitChars_toDigits (by decide) (by decide)
  have hdigits : ∀ c ∈ numeral n, c.isDigit = true := fun c hc => isDigit_of_mem_numeral hc
  have hread : readDigits bound 0 (numeral n) = .ok (Nat.ofDigitChars 10 (numeral n) 0) :=
    readDigits_of_digits hdigits (by rwa [hvalue])
  rw [hvalue] at hread
  have hplus : '+' ∉ numeral n := fun hmem =>
    absurd (isDigit_of_mem_numeral hmem) (by decide)
  unfold readNumeral
  split
  · next hnil => exact absurd hnil Nat.toDigits_ne_nil
  · next hsign => exact absurd (by rw [hsign]; exact List.mem_cons_self) hplus
  · next hsign => exact absurd (by rw [hsign]; exact List.mem_cons_self) hplus
  · exact hread

/-- A word is read from its numeral. -/
theorem word32?_numeral (h : n ≤ maxWord32) : word32? (numeral n) = some n := by
  rw [word32?, readNumeral_numeral h]
  rfl

end Text

end AppBundle
