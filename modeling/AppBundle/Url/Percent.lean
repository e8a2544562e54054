import AppBundle.Text.Bytes

/-!
# Percent encoding

Characters that may not stand in a part of a URL are written as their bytes, each as a percent sign
and two hexadecimal digits. Which ones depends on the part. Everything outside ASCII is always
encoded.
-/

namespace AppBundle.Url

open AppBundle.Text

/-- The parts of a URL that differ in what they encode. -/
inductive Part where
  /-- The path of a URL without segments. -/
  | opaquePath
  /-- The fragment. -/
  | fragment
  /-- The query. -/
  | query
  /-- The query of a URL with a special scheme. -/
  | specialQuery
  /-- A path with its slashes. -/
  | path
  /-- A single segment of a path, in which slashes of both kinds are encoded. -/
  | segment
  /-- User name and password. -/
  | userinfo
  deriving Repr, DecidableEq

/-- A control character, or one outside ASCII. -/
def isControl (c : Char) : Bool :=
  c.toNat < 32 || c.toNat ≥ 127

/-- Whether a character is encoded in a part. -/
def Part.encodes (part : Part) (c : Char) : Bool :=
  isControl c || match part with
    | .opaquePath => false
    | .fragment => c ∈ [' ', '"', '<', '>', '\x60']
    | .query => c ∈ [' ', '"', '#', '<', '>']
    | .specialQuery => c ∈ [' ', '"', '#', '<', '>', '\'']
    | .path => c ∈ [' ', '"', '<', '>', '\x60', '#', '?', '{', '}']
    | .segment => c ∈ [' ', '"', '<', '>', '\x60', '#', '?', '{', '}', '/', '%', '\\']
    | .userinfo =>
      c ∈ [' ', '"', '<', '>', '\x60', '#', '?', '{', '}', '/', ':', ';', '=', '@', '[', '\\', ']',
        '^', '|']

/-- A hexadecimal digit in upper case. -/
def hexUpper (n : Nat) : Char :=
  if n < 10 then Char.ofNat ('0'.toNat + n) else Char.ofNat ('A'.toNat + (n - 10))

/-- A byte behind a percent sign. -/
def percentByte (b : UInt8) : List Char :=
  ['%', hexUpper (b.toNat / 16), hexUpper (b.toNat % 16)]

/-- The text as it stands in a part. -/
def Part.encode (part : Part) (cs : List Char) : List Char :=
  cs.flatMap fun c => if part.encodes c then (encodeChar c).flatMap percentByte else [c]

/-- The value of a hexadecimal digit. -/
def hexDigitValue? (c : Char) : Option Nat :=
  if c.isDigit then some (c.toNat - '0'.toNat)
  else if 'a' ≤ c && c ≤ 'f' then some (c.toNat - 'a'.toNat + 10)
  else if 'A' ≤ c && c ≤ 'F' then some (c.toNat - 'A'.toNat + 10)
  else none

/-- The bytes that a text stands for: two hexadecimal digits behind a percent sign are a byte. The
number counts characters of an escape that is already read. -/
def decodePercentFrom : Nat → List Char → List UInt8
  | _, [] => []
  | skip + 1, _ :: rest => decodePercentFrom skip rest
  | 0, c :: rest =>
    let escape : Option UInt8 :=
      match c, rest with
      | '%', a :: b :: _ =>
        match hexDigitValue? a, hexDigitValue? b with
        | some a, some b => some (UInt8.ofNat (a * 16 + b))
        | _, _ => none
      | _, _ => none
    match escape with
    | some b => b :: decodePercentFrom 2 rest
    | none => encodeChar c ++ decodePercentFrom 0 rest

/-- The bytes that a text stands for. -/
def decodePercent (cs : List Char) : List UInt8 :=
  decodePercentFrom 0 cs

end AppBundle.Url
