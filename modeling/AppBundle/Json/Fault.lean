/-!
# Faults of a JSON text

Why a text is no JSON, or holds a string or number that stands for no value.
-/

namespace AppBundle.Json

/-- A fault of a JSON text. -/
inductive Fault where
  /-- The text ends where a value is due. -/
  | endOfValue
  /-- The text ends inside an array. -/
  | endOfArray
  /-- The text ends inside an object. -/
  | endOfObject
  /-- The text ends inside a string. -/
  | endOfString
  /-- The text ends inside a number. -/
  | endOfNumber
  /-- The text ends inside the name of a value. -/
  | endOfWord
  /-- No value begins here. -/
  | expectedValue
  /-- A word other than the three names of values. -/
  | expectedWord
  /-- A member has no string for a name. -/
  | expectedName
  /-- No colon follows the name of a member. -/
  | expectedColon
  /-- An item is followed by neither a comma nor the end of the array. -/
  | expectedArrayEnd
  /-- A member is followed by neither a comma nor the end of the object. -/
  | expectedObjectEnd
  /-- A comma before the end of an array. -/
  | commaBeforeArrayEnd
  /-- A comma before the end of an object. -/
  | commaBeforeObjectEnd
  /-- Text after the value. -/
  | textAfterValue
  /-- An unescaped control character in a string. -/
  | controlCharacter
  /-- An unknown escape. -/
  | invalidEscape
  /-- Half of a surrogate pair without its other half. -/
  | loneSurrogate
  /-- A first half of a surrogate pair that no escape follows. -/
  | endOfEscape
  /-- A number with misplaced characters. -/
  | invalidNumber
  /-- A number beyond the largest. -/
  | numberOutOfRange
  /-- Values nested too deeply. -/
  | tooDeep
  deriving Repr, DecidableEq, Inhabited

/-- The wording of a fault. -/
def Fault.message : Fault → String
  | .endOfValue => "EOF while parsing a value"
  | .endOfArray => "EOF while parsing a list"
  | .endOfObject => "EOF while parsing an object"
  | .endOfString => "EOF while parsing a string"
  | .endOfNumber => "EOF while parsing a value"
  | .endOfWord => "EOF while parsing a value"
  | .expectedValue => "expected value"
  | .expectedWord => "expected ident"
  | .expectedName => "key must be a string"
  | .expectedColon => "expected `:`"
  | .expectedArrayEnd => "expected `,` or `]`"
  | .expectedObjectEnd => "expected `,` or `\x7d`"
  | .commaBeforeArrayEnd => "trailing comma"
  | .commaBeforeObjectEnd => "trailing comma"
  | .textAfterValue => "trailing characters"
  | .controlCharacter => "control character (\\u0000-\\u001F) found while parsing a string"
  | .invalidEscape => "invalid escape"
  | .loneSurrogate => "lone leading surrogate in hex escape"
  | .endOfEscape => "unexpected end of hex escape"
  | .invalidNumber => "invalid number"
  | .numberOutOfRange => "number out of range"
  | .tooDeep => "recursion limit exceeded"

/-- The fault as it appears in a value that is passed over. There a number is only scanned, a comma
is always followed by an item or a name, and an end inside an object is just that. -/
def Fault.passedOver : Fault → Fault
  | .endOfNumber => .invalidNumber
  | .commaBeforeArrayEnd => .expectedValue
  | .commaBeforeObjectEnd => .expectedName
  | f => f

end AppBundle.Json
