import AppBundle.Text.Bytes
import AppBundle.Text.Numeral

/-!
# Numbers in mappings

A field of a mapping is a whole number in digits of six bits, least significant first. The highest
bit of a digit says that another follows; the lowest bit of the number is its sign. A number has at
most twelve digits.

Faults of mappings give the byte at which they lie. Everything in front of a fault is ASCII, so
bytes are counted as characters.
-/

namespace AppBundle

/-- The running totals of mappings, by name. -/
inductive MappingField where
  /-- The column of the generated line. -/
  | column
  /-- The index of the source. -/
  | source
  /-- The line of the source. -/
  | sourceLine
  /-- The column of the line of the source. -/
  | sourceColumn
  /-- The index of the name. -/
  | name
  deriving Repr, DecidableEq

/-- Why mappings cannot be decoded. -/
inductive MappingFault where
  /-- The map is of another version. -/
  | version (version : Nat)
  /-- A byte that is no digit. -/
  | character (c : Char) (offset : Nat)
  /-- A number ends behind a digit that another should follow. -/
  | truncated (offset : Nat)
  /-- A number has too many digits, or a total is beyond 32 bits. -/
  | overflow (offset : Nat)
  /-- A segment has the wrong number of fields. -/
  | fields (count : Nat)
  /-- A total falls below zero. -/
  | negative (field : MappingField) (line : Nat)
  deriving Repr, DecidableEq

/-- The name of a total. -/
def MappingField.words : MappingField → String
  | .column => "generated column"
  | .source => "source index"
  | .sourceLine => "original line"
  | .sourceColumn => "original column"
  | .name => "name index"

/-- The wording of a fault. -/
def MappingFault.message : MappingFault → String
  | .version v => "unsupported sourcemap version " ++ decimal v ++ " (expected 3)"
  | .character c offset =>
    "invalid base64 character `" ++ String.singleton c ++ "` in mappings at byte " ++ decimal offset
  | .truncated offset => "truncated VLQ value in mappings at byte " ++ decimal offset
  | .overflow offset => "VLQ value overflows at byte " ++ decimal offset
  | .fields n => "segment with " ++ decimal n ++ " fields (expected 1, 4 or 5)"
  | .negative field line =>
    "negative " ++ field.words ++ " after applying delta at generated line " ++ decimal line

namespace SourceMap

/-- The value of a digit. -/
def digit? (c : Char) : Option Nat :=
  if 'A' ≤ c ∧ c ≤ 'Z' then some (c.toNat - 'A'.toNat)
  else if 'a' ≤ c ∧ c ≤ 'z' then some (c.toNat - 'a'.toNat + 26)
  else if '0' ≤ c ∧ c ≤ '9' then some (c.toNat - '0'.toNat + 52)
  else if c = '+' then some 62
  else if c = '/' then some 63
  else none

/-- The first byte of a character, shown as the character of that number. -/
def firstByte (c : Char) : Char :=
  match Text.encodeChar c with
  | b :: _ => Char.ofNat b.toNat
  | [] => c

/-- The number that digits make up: the lowest bit is the sign. -/
def signed (value : Nat) : Int :=
  if value % 2 = 1 then -(value / 2 : Nat) else (value / 2 : Nat)

/-- The most digits of a number. -/
def maxDigits : Nat := 12

/-- The fields of a segment whose digits begin at a byte. `digits` digits of the present number are
read, and `value` is what they make up. -/
def readFields (offset digits value : Nat) : List Char → Except MappingFault (List Int)
  | [] => if digits = 0 then .ok [] else .error (.truncated offset)
  | c :: rest =>
    match digit? c with
    | none => .error (.character (firstByte c) offset)
    | some d =>
      if maxDigits ≤ digits then .error (.overflow offset)
      else
        let value := value + d % 32 * Nat.pow 32 digits
        if 32 ≤ d then readFields (offset + 1) (digits + 1) value rest
        else (readFields (offset + 1) 0 0 rest).map (signed value :: ·)

/-- The fields of a segment that begins at a byte. -/
def fieldsAt (offset : Nat) (piece : List Char) : Except MappingFault (List Int) :=
  readFields offset 0 0 piece

end SourceMap

end AppBundle
