/-!
# Binary floating point numbers of 64 bits

A finite nonnegative number of the format is `significand · 2 ^ exponent` with a significand of at
most 53 bits. Every operation is a quotient of natural numbers rounded to the nearest such number, a
tie going to the even significand, so all of it is exact arithmetic on naturals and integers.
-/

namespace AppBundle

/-- A finite nonnegative number of the 64-bit binary format. -/
structure Binary64 where
  /-- The significand, below `2 ^ 53`. -/
  significand : Nat
  /-- The exponent of two, between `-1074` and `971`. -/
  exponent : Int
  deriving Repr, DecidableEq

namespace Binary64

/-- Zero. -/
def zero : Binary64 := ⟨0, -1074⟩

/-- The quotient `num / den · 2 ^ (-q)` as a pair of naturals. -/
def scaled (num den : Nat) (q : Int) : Nat × Nat :=
  if 0 ≤ q then (num, den * Nat.pow 2 q.toNat) else (num * Nat.pow 2 (-q).toNat, den)

/-- The exponent at which a positive quotient has a significand of exactly 53 bits. -/
def fullExponent (num den : Nat) : Int :=
  let q : Int := (num.log2 : Int) - (den.log2 : Int) - 52
  let (n, d) := scaled num den q
  if n / d < Nat.pow 2 52 then q - 1 else q

/-- The quotient rounded to a natural number, a tie going to the even neighbour. -/
def roundEven (n d : Nat) : Nat :=
  let m := n / d
  let r := n % d
  if 2 * r < d then m
  else if 2 * r = d then (if m % 2 = 0 then m else m + 1)
  else m + 1

/-- The number nearest to a quotient; none if it lies beyond the largest. -/
def ofRatio? (num den : Nat) : Option Binary64 :=
  if num = 0 then some zero
  else
    let q := max (fullExponent num den) (-1074)
    let (n, d) := scaled num den q
    let m := roundEven n d
    let (m, q) := if m = Nat.pow 2 53 then (Nat.pow 2 52, q + 1) else (m, q)
    if q > 971 then none else some ⟨m, q⟩

/-- The value as a quotient of naturals. -/
def ratio (x : Binary64) : Nat × Nat :=
  if 0 ≤ x.exponent then (x.significand * Nat.pow 2 x.exponent.toNat, 1)
  else (x.significand, Nat.pow 2 (-x.exponent).toNat)

/-- The rounded product. -/
def mul? (x y : Binary64) : Option Binary64 :=
  let (a, b) := x.ratio
  let (c, d) := y.ratio
  ofRatio? (a * c) (b * d)

/-- The rounded quotient by a nonzero number. -/
def div? (x y : Binary64) : Option Binary64 :=
  let (a, b) := x.ratio
  let (c, d) := y.ratio
  ofRatio? (a * d) (b * c)

/-- The number nearest to a power of ten. -/
def powTen? (k : Nat) : Option Binary64 :=
  ofRatio? (Nat.pow 10 k) 1

/-- The leading digits of a number as far as they fit 64 bits, with the count of digits left out. -/
def leadingDigits (n : Nat) : Nat × Nat :=
  if n ≤ 18446744073709551615 then (n, 0)
  else
    let (m, dropped) := leadingDigits (n / 10)
    (m, dropped + 1)
termination_by n
decreasing_by omega

/-- The number read from `digits · 10 ^ exponent`: digits beyond 64 bits are dropped, the digits are
rounded, and the result is scaled by one power of ten, or by two where one would not do. None if the
result is too large. -/
def ofDecimal? (digits : Nat) (exponent : Int) : Option Binary64 := do
  let (kept, dropped) := leadingDigits digits
  let e := exponent + dropped
  let x ← ofRatio? kept 1
  if kept = 0 then some zero
  else if 308 < e then none
  else if 0 ≤ e then x.mul? (← powTen? e.toNat)
  else if -308 ≤ e then x.div? (← powTen? (-e).toNat)
  else if -616 ≤ e then
    let y ← x.div? (← powTen? 308)
    y.div? (← powTen? (-(e + 308)).toNat)
  else some zero

end Binary64

end AppBundle
