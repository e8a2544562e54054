import AppBundle.Text.Decomposition
import AppBundle.Text.Mark

/-!
# The composed form of a text

Texts that are the same but for how their characters are put together have one composed form: every
character is taken apart, the marks behind a character are ordered by their class, and what can be
put together is put together again.
-/

namespace AppBundle.Text

/-- The combining class of a code point. -/
def markClass (n : Nat) : Nat :=
  combiningClass (Char.ofNat n)

/-- A character in front of ordered ones. It moves behind the marks of lower classes. -/
def insertMark (n : Nat) : List Nat → List Nat
  | [] => [n]
  | m :: rest =>
    if 0 < markClass m ∧ markClass m < markClass n then m :: insertMark n rest else n :: m :: rest

/-- The marks behind each character ordered by class; marks of one class keep their order. -/
def orderMarks (points : List Nat) : List Nat :=
  points.foldr insertMark []

/-- A text while it is put together. -/
structure Composing where
  /-- What is finished, last character first. -/
  done : List Nat
  /-- The last character that starts afresh. -/
  starter : Option Nat
  /-- The marks behind it, last one first. -/
  marks : List Nat

namespace Composing

/-- All characters so far, in order. -/
def toList (s : Composing) : List Nat :=
  (s.marks ++ s.starter.toList ++ s.done).reverse

/-- The next character. It joins the last one that starts afresh unless a mark of its own class or
a higher one stands between them. -/
def add (s : Composing) (n : Nat) : Composing :=
  match s.starter with
  | none => if markClass n = 0 then { s with starter := some n } else { s with done := n :: s.done }
  | some a =>
    let reaches := match s.marks with
      | [] => true
      | m :: _ => markClass m < markClass n
    match if reaches then together? a n else none with
    | some c => { s with starter := some c }
    | none =>
      if markClass n = 0 then ⟨s.marks ++ a :: s.done, some n, []⟩
      else { s with marks := n :: s.marks }

end Composing

/-- The composed form of a list of code points. -/
def composePoints (points : List Nat) : List Nat :=
  ((orderMarks (points.flatMap apart)).foldl Composing.add ⟨[], none, []⟩).toList

/-- The composed form of a text. A text below 0x300 is in composed form. -/
def composed (cs : List Char) : List Char :=
  if cs.all (·.toNat < 0x300) then cs
  else (composePoints (cs.map Char.toNat)).map Char.ofNat

/-! ## Small lemmas -/

theorem length_insertMark (n : Nat) (points : List Nat) :
    (insertMark n points).length = points.length + 1 := by
  induction points with
  | nil => rfl
  | cons m rest ih =>
    rw [insertMark]
    split
    · rw [List.length_cons, ih, List.length_cons]
    · rfl

/-- Ordering moves marks and loses none. -/
theorem length_orderMarks (points : List Nat) : (orderMarks points).length = points.length := by
  induction points with
  | nil => rfl
  | cons n rest ih =>
    rw [orderMarks, List.foldr_cons, length_insertMark]
    exact congrArg (· + 1) ih

end AppBundle.Text
