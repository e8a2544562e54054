import AppBundle.Number.Binary64

/-!
# Shortest decimal of a binary number

The shortest decimal that reads back as a given binary number: the fewest digits for which some
point of the decimal grid lies in the interval of reals that round to the number, and of two such
points the nearer. The ends of the interval belong to it exactly when the significand is even. Grids
are tried from one digit to seventeen, and if a grid has a point in the interval, one of the two
grid neighbours of the number is such a point, so only those are tested.
-/

namespace AppBundle.Binary64

/-- The power of ten of the first digit of a positive quotient. -/
def leadingPower (num den : Nat) : Int :=
  if den ≤ num then ((Nat.toDigits 10 (num / den)).length : Int) - 1
  else -((Nat.toDigits 10 ((den - 1) / num)).length : Int)

/-- The number, its interval of rounding and the common denominator, in quarters of a unit in the
last place: lower end, value, upper end, denominator. The gap below a power of two is half as
wide. -/
def interval (x : Binary64) : Nat × Nat × Nat × Nat :=
  let m := x.significand
  let low := if m = Nat.pow 2 52 ∧ -1074 < x.exponent then 4 * m - 1 else 4 * m - 2
  let q := x.exponent - 2
  if 0 ≤ q then
    let s := Nat.pow 2 q.toNat
    (low * s, 4 * m * s, (4 * m + 2) * s, 1)
  else (low, 4 * m, 4 * m + 2, Nat.pow 2 (-q).toNat)

/-- The value `a · 10 ^ k`, over a denominator, and the factor that brings a numerator to the same
scale. -/
def gridPoint (a : Nat) (k : Int) (den : Nat) : Nat × Nat :=
  if 0 ≤ k then (a * Nat.pow 10 k.toNat * den, 1) else (a * den, Nat.pow 10 (-k).toNat)

/-- Whether a grid point lies in the interval of rounding. -/
def reads (x : Binary64) (a : Nat) (k : Int) : Bool :=
  let (low, _, high, den) := x.interval
  let (p, f) := gridPoint a k den
  if x.significand % 2 = 0 then low * f ≤ p && p ≤ high * f else low * f < p && p < high * f

/-- The point of a decimal grid that reads back as the number and is nearest to it. -/
def onGrid? (x : Binary64) (k : Int) : Option Nat :=
  let (_, value, _, den) := x.interval
  let a := if 0 ≤ k then value / (den * Nat.pow 10 k.toNat) else value * Nat.pow 10 (-k).toNat / den
  match x.reads a k, x.reads (a + 1) k with
  | true, true =>
    let (p, f) := gridPoint a k den
    let (p', _) := gridPoint (a + 1) k den
    let below := value * f - p
    let above := p' - value * f
    if below < above || (below = above && a % 2 = 0) then some a else some (a + 1)
  | true, false => some a
  | false, true => some (a + 1)
  | false, false => none

/-- The first grid with a hit, from a given number of digits on. -/
def firstGrid (x : Binary64) (top : Int) : Nat → Nat → Nat × Int
  | 0, digits => (0, top - digits)
  | tries + 1, digits =>
    match x.onGrid? (top - digits) with
    | some a => (a, top - digits)
    | none => firstGrid x top tries (digits + 1)

/-- The decimal without trailing zeros. -/
def dropZeros (a : Nat) (k : Int) : Nat × Int :=
  if a ≠ 0 ∧ a % 10 = 0 then dropZeros (a / 10) (k + 1) else (a, k)
termination_by a
decreasing_by omega

/-- The shortest decimal `digits · 10 ^ power` that reads back as the number. -/
def shortest (x : Binary64) : Nat × Int :=
  if x.significand = 0 then (0, 0)
  else
    let (num, den) := x.ratio
    let (a, k) := x.firstGrid (leadingPower num den) 17 0
    dropZeros a k

end AppBundle.Binary64
