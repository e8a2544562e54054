import AppBundle.Text.Lines

/-!
# Labels in ASCII

A label of a host name that goes beyond ASCII is written in the bootstring encoding: its ASCII
characters, then for every other character how far to count, in generalized variable-length numbers
of base 36, behind the mark `xn--`. The encoding can be read again.
-/

namespace AppBundle.Url

/-- A digit of base 36. -/
def base36 (n : Nat) : Char :=
  if n < 26 then Char.ofNat ('a'.toNat + n) else Char.ofNat ('0'.toNat + (n - 26))

/-- The bias scaled down until it is small, with the steps taken. -/
def scaleDelta (delta k : Nat) : Nat :=
  if delta > 455 then scaleDelta (delta / 35) (k + 36)
  else k + 36 * delta / (delta + 38)
termination_by delta
decreasing_by omega

/-- The bias after a number was written. -/
def adaptBias (delta points : Nat) (first : Bool) : Nat :=
  let delta := if first then delta / 700 else delta / 2
  scaleDelta (delta + delta / points) 0

/-- The threshold of a digit. -/
def threshold (k bias : Nat) : Nat :=
  if k ≤ bias then 1 else if k ≥ bias + 26 then 26 else k - bias

/-- A number in digits of varying weight. -/
def variableLength : Nat → Nat → Nat → Nat → List Char
  | 0, _, _, q => [base36 q]
  | fuel + 1, k, bias, q =>
    let t := threshold k bias
    if q < t then [base36 q]
    else base36 (t + (q - t) % (36 - t)) :: variableLength fuel (k + 36) bias ((q - t) / (36 - t))

/-- The state of the encoding while it counts up. -/
structure Counting where
  /-- How far has been counted since the last number. -/
  delta : Nat
  /-- The bias of the next number. -/
  bias : Nat
  /-- How many characters are written. -/
  written : Nat

/-- The numbers of all characters equal to one code point, in a pass over the label. -/
def writePoint (label : List Char) (basic point : Nat) (s : Counting) : Counting × List Char :=
  label.foldl (fun (s, out) c =>
    if c.toNat < point then ({ s with delta := s.delta + 1 }, out)
    else if c.toNat = point then
      let digits := variableLength 16 36 s.bias s.delta
      (⟨0, adaptBias s.delta (s.written + 1) (s.written = basic), s.written + 1⟩, out ++ digits)
    else (s, out)) (s, [])

/-- The numbers of all characters beyond ASCII, code point by code point. -/
def writePoints (label : List Char) (basic : Nat) : List Nat → Nat → Counting → List Char
  | [], _, _ => []
  | point :: rest, n, s =>
    let s := { s with delta := s.delta + (point - n) * (s.written + 1) }
    let (s, out) := writePoint label basic point s
    out ++ writePoints label basic rest (point + 1) { s with delta := s.delta + 1 }

/-- A label in ASCII. -/
def asciiLabel (label : List Char) : List Char :=
  let basic := label.filter (·.toNat < 128)
  if basic.length = label.length then label
  else
    let points := ((label.map Char.toNat).filter (128 ≤ ·)).mergeSort.eraseDups
    let mark := if basic.isEmpty then [] else ['-']
    ['x', 'n', '-', '-'] ++ basic ++ mark
      ++ writePoints label basic.length points 128 ⟨0, 72, basic.length⟩

/-! ## Reading -/

/-- The value of a digit of base 36. -/
def base36Value? (c : Char) : Option Nat :=
  if 'a' ≤ c ∧ c ≤ 'z' then some (c.toNat - 'a'.toNat)
  else if '0' ≤ c ∧ c ≤ '9' then some (c.toNat - '0'.toNat + 26)
  else none

/-- The number in digits of varying weight in front of a text, with the text behind it. Weights have
32 bits. -/
def readVariable? (bias : Nat) : Nat → Nat → Nat → List Char → Option (Nat × List Char)
  | _, _, _, [] => none
  | k, weight, sum, c :: rest => do
    let digit ← base36Value? c
    let sum := sum + digit * weight
    let t := threshold k bias
    if digit < t then return (sum, rest)
    else if weight * (36 - t) ≥ 4294967296 then none
    else readVariable? bias (k + 36) (weight * (36 - t)) sum rest

/-- The label with the characters that the numbers name put in. A number counts the places passed
over since the last character, code point by code point. At least one digit makes a number, so the
length of the text bounds how many there are. -/
def readPoints? : Nat → Nat → Nat → Nat → List Char → List Char → Option (List Char)
  | _, _, _, _, label, [] => some label
  | 0, _, _, _, _, _ => none
  | fuel + 1, bias, point, place, label, cs => do
    let (n, rest) ← readVariable? bias 36 1 0 cs
    let places := label.length + 1
    let point := point + (place + n) / places
    let at_ := (place + n) % places
    if Nat.isValidChar point then
      readPoints? fuel (adaptBias n places (place = 0)) point (at_ + 1)
        (label.take at_ ++ Char.ofNat point :: label.drop at_) rest
    else none

/-- The label that the text behind the mark writes: the ASCII characters stand before the last
hyphen, unless nothing does. -/
def readLabel? (code : List Char) : Option (List Char) :=
  let digits := (code.reverse.takeWhile (· ≠ '-')).reverse
  let basic := code.take (code.length - digits.length - 1)
  readPoints? code.length 72 128 0 basic (if basic.isEmpty then code else digits)

end AppBundle.Url
