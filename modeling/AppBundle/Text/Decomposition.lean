import AppBundle.Text.Decomposition.Equals
import AppBundle.Text.Decomposition.Pairs

/-!
# Characters made of others

Some characters are the same text as others in a row: a letter with a mark is the letter followed by
the mark. Tables give the two parts of a character; a few characters are only another way to write a
single one, and some stay apart once they are taken apart.

The syllables of the Korean script are made by counting: a leading consonant, a vowel and perhaps a
trailing consonant.
-/

namespace AppBundle.Text

/-- The characters that are put together from two, with the two. -/
def pairs : List (Nat × Nat × Nat) :=
  lowPairs ++ highPairs

/-- The two parts of a syllable that is made by counting. -/
def syllableParts? (n : Nat) : Option (Nat × Nat) :=
  if 0xac00 ≤ n ∧ n < 0xd7a4 then
    let i := n - 0xac00
    if i % 28 = 0 then some (0x1100 + i / 588, 0x1161 + i % 588 / 28)
    else some (n - i % 28, 0x11a7 + i % 28)
  else none

/-- The syllable made of two parts. -/
def syllable? (a b : Nat) : Option Nat :=
  if 0x1100 ≤ a ∧ a < 0x1113 ∧ 0x1161 ≤ b ∧ b < 0x1176 then
    some (0xac00 + ((a - 0x1100) * 21 + (b - 0x1161)) * 28)
  else if 0xac00 ≤ a ∧ a < 0xd7a4 ∧ (a - 0xac00) % 28 = 0 ∧ 0x11a7 < b ∧ b < 0x11c3 then
    some (a + (b - 0x11a7))
  else none

/-- The two parts of a character. -/
def parts? (n : Nat) : Option (Nat × Nat) :=
  match syllableParts? n with
  | some ab => some ab
  | none => ((pairs ++ apartPairs).find? (·.1 = n)).map (·.2)

/-- The character that another stands for. -/
def equal? (n : Nat) : Option Nat :=
  ((lowEquals ++ highEquals).find? (·.1 = n)).map (·.2)

/-- The character that is put together from two. -/
def together? (a b : Nat) : Option Nat :=
  match syllable? a b with
  | some n => some n
  | none => (pairs.find? (·.2 = (a, b))).map (·.1)

/-- A character taken apart as often as the number says. Only the first of two parts can be taken
apart again. -/
def takeApart : Nat → Nat → List Nat
  | 0, n => [n]
  | depth + 1, n =>
    match parts? n with
    | some (a, b) => takeApart depth a ++ [b]
    | none =>
      match equal? n with
      | some a => takeApart depth a
      | none => [n]

/-- A character taken apart until nothing is left to take apart: none nests deeper than three times.
Those below 0xc0 stand for themselves. -/
def apart (n : Nat) : List Nat :=
  if n < 0xc0 then [n] else takeApart 3 n

/-! ## Small lemmas -/

/-- A syllable that was put together falls into the same two parts. -/
theorem syllableParts?_of_syllable? {a b n : Nat} (h : syllable? a b = some n) :
    syllableParts? n = some (a, b) := by
  unfold syllable? at h
  unfold syllableParts?
  split at h
  · have hn := Option.some.inj h
    have lo : 0xac00 ≤ n ∧ n < 0xd7a4 := by omega
    have zero : (n - 0xac00) % 28 = 0 := by omega
    simp only [lo, zero, and_self, if_true, Option.some.injEq, Prod.mk.injEq]
    omega
  · split at h
    · have hn := Option.some.inj h
      have lo : 0xac00 ≤ n ∧ n < 0xd7a4 := by omega
      have zero : (n - 0xac00) % 28 ≠ 0 := by omega
      simp only [lo, zero, and_self, if_true, if_false, Option.some.injEq, Prod.mk.injEq]
      omega
    · cases h

end AppBundle.Text
