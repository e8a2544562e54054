import AppBundle.Number.Shortest
import AppBundle.Text.Numeral

/-!
# Numbers of a JSON text

A number is a whole number of 64 bits, signed or unsigned, or a decimal. A literal is read exactly:
a decimal keeps the digits and the power of ten it was written with. `rounded?` replaces a decimal
by the shortest one that names the same 64-bit binary number, which is the form in which values of
unknown meaning are passed on.
-/

namespace AppBundle.Json

open AppBundle.Text

/-- A number of a JSON text. -/
inductive Number where
  /-- A whole number that fits 64 bits, with or without a sign. -/
  | integer (value : Int)
  /-- The decimal `digits · 10 ^ power`, with a sign of its own: zero may be negative. -/
  | decimal (negative : Bool) (digits : Nat) (power : Int)
  deriving Repr, DecidableEq, Inhabited

namespace Number

/-- The smallest number of 64 bits. -/
def minSigned64 : Int := -9223372036854775808

/-- The largest signed number of 64 bits. -/
def maxSigned64 : Int := 9223372036854775807

/-- The number a whole literal writes. Beyond 64 bits it is a decimal, and so is a negative zero. -/
def ofWhole (negative : Bool) (n : Nat) : Number :=
  if negative then
    if n = 0 ∨ (n : Int) > -minSigned64 then .decimal true n 0 else .integer (-n)
  else if n ≤ maxWord64 then .integer n
  else .decimal false n 0

/-- The number with a decimal replaced by the shortest one that names the same binary number; none
if it lies beyond the largest. -/
def rounded? : Number → Option Number
  | .integer i => some (.integer i)
  | .decimal negative digits power => do
    let x ← Binary64.ofDecimal? digits power
    let (digits, power) := x.shortest
    some (.decimal negative digits power)

/-- The digits of a decimal whose first digit stands at a power of ten, laid out: positional from
the fifth place behind the point up to sixteen places before it, else with an exponent. -/
def layout (digits : List Char) (power : Int) : List Char :=
  let places := (digits.length : Int) + power
  if 0 ≤ power ∧ places ≤ 16 then
    digits ++ List.replicate power.toNat '0' ++ ['.', '0']
  else if 0 < places ∧ places ≤ 16 then
    digits.take places.toNat ++ '.' :: digits.drop places.toNat
  else if -5 < places ∧ places ≤ 0 then
    '0' :: '.' :: List.replicate (-places).toNat '0' ++ digits
  else
    let exponent := places - 1
    let mantissa := match digits with
      | [] => []
      | [d] => [d]
      | d :: rest => d :: '.' :: rest
    let sign := if exponent < 0 then '-' else '+'
    mantissa ++ 'e' :: sign :: numeral exponent.natAbs

/-- The text of a number. A decimal is written without the zeros that end its digits. -/
def text : Number → List Char
  | .integer i => (signedDecimal i).toList
  | .decimal negative digits power =>
    let sign := if negative then ['-'] else []
    if digits = 0 then sign ++ ['0', '.', '0']
    else
      let (digits, power) := Binary64.dropZeros digits power
      sign ++ layout (numeral digits) power

end Number

end AppBundle.Json
