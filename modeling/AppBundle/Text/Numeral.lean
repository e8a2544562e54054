/-!
# Decimal numerals

Whole numbers written in decimal digits, read with an upper bound. A numeral may carry a plus sign;
only ASCII digits count.
-/

namespace AppBundle.Text

/-- The largest number of 32 bits. -/
def maxWord32 : Nat := 4294967295

/-- The largest number of 64 bits. -/
def maxWord64 : Nat := 18446744073709551615

/-- Why a text is no numeral within its bound. -/
inductive NumeralError where
  /-- There is no digit to read. -/
  | empty
  /-- A character that is no digit. -/
  | invalidDigit
  /-- The number lies above the bound. -/
  | tooLarge
  deriving Repr, DecidableEq

/-- The wording of a numeral error. -/
def NumeralError.message : NumeralError → String
  | .empty => "cannot parse integer from empty string"
  | .invalidDigit => "invalid digit found in string"
  | .tooLarge => "number too large to fit in target type"

/-- The value of a digit. -/
def digitValue? (c : Char) : Option Nat :=
  if c.isDigit then some (c.toNat - '0'.toNat) else none

/-- The number written by digits behind those already read; the first fault met from the left is
reported. -/
def readDigits (bound : Nat) : Nat → List Char → Except NumeralError Nat
  | n, [] => .ok n
  | n, c :: rest =>
    match digitValue? c with
    | none => .error .invalidDigit
    | some d => if n * 10 + d ≤ bound then readDigits bound (n * 10 + d) rest else .error .tooLarge

/-- The number a text writes, at most `bound`. A lone sign is an invalid digit. -/
def readNumeral (bound : Nat) (cs : List Char) : Except NumeralError Nat :=
  match cs with
  | [] => .error .empty
  | ['+'] => .error .invalidDigit
  | '+' :: rest => readDigits bound 0 rest
  | _ => readDigits bound 0 cs

/-- The number a text writes, if it fits 32 bits. -/
def word32? (cs : List Char) : Option Nat :=
  (readNumeral maxWord32 cs).toOption

/-- The decimal digits of a number. -/
def numeral (n : Nat) : List Char :=
  Nat.toDigits 10 n

end AppBundle.Text

namespace AppBundle

/-- A number in decimal. -/
def decimal (n : Nat) : String :=
  String.ofList (Text.numeral n)

/-- A signed number in decimal. -/
def signedDecimal (i : Int) : String :=
  if i < 0 then "-" ++ decimal i.natAbs else decimal i.natAbs

end AppBundle
