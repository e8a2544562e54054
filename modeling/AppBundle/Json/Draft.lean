import AppBundle.Json.Fault
import AppBundle.Json.Value
import AppBundle.Text.Bytes

/-!
# Reading JSON text

A text is read into a *draft*: the value as far as the text gives one, with the fault that ended the
reading at the place where it was met. A reader that wants a certain shape walks the draft in the
order of the text, so of two faults it reports the one that comes first, be it a fault of the text
or of the shape.

Two faults are mild: a lone half of a surrogate pair spoils a string, and a number may be beyond the
largest, but the text goes on behind them, and a reader that passes over the value never notices.
-/

namespace AppBundle.Json

open AppBundle.Text

/-- A value as far as a text gives one. -/
inductive Draft where
  /-- The empty value. -/
  | null
  /-- A truth value. -/
  | bool (b : Bool)
  /-- A number, exactly as written. -/
  | number (n : Number)
  /-- A string, or the mild fault that spoils it; then the fault that ended it, if one did. -/
  | string (text : Except Fault String) (stop : Option Fault)
  /-- The items of an array, and the fault behind the last of them. -/
  | array (items : List Draft) (stop : Option Fault)
  /-- The members of an object, and the fault behind the last of them. -/
  | object (members : List (Except Fault String × Draft)) (stop : Option Fault)
  /-- No value begins here. -/
  | fault (f : Fault)
  deriving Inhabited

/-! ## Strings -/

/-- The value of a hexadecimal digit. -/
def hexValue? (c : Char) : Option Nat :=
  if c.isDigit then some (c.toNat - '0'.toNat)
  else if 'a' ≤ c && c ≤ 'f' then some (c.toNat - 'a'.toNat + 10)
  else if 'A' ≤ c && c ≤ 'F' then some (c.toNat - 'A'.toNat + 10)
  else none

/-- The number written by four hexadecimal digits, and the rest. -/
def readHex : List Char → Except Fault (Nat × List Char)
  | a :: b :: c :: d :: rest =>
    match hexValue? a, hexValue? b, hexValue? c, hexValue? d with
    | some a, some b, some c, some d => .ok (a * 4096 + b * 256 + c * 16 + d, rest)
    | _, _, _, _ => .error .invalidEscape
  | rest => .error (if byteLength rest < 4 then .endOfString else .invalidEscape)

/-- The character of an escape of one letter. -/
def shortEscape? (c : Char) : Option Char :=
  if c = '"' || c = '\\' || c = '/' then some c
  else if c = 'b' then some '\x08'
  else if c = 'f' then some '\x0c'
  else if c = 'n' then some '\n'
  else if c = 'r' then some '\r'
  else if c = 't' then some '\t'
  else none

/-- What a string gives: its characters or its mild fault, the fault that ended it, and the text
behind it. -/
structure StringDraft where
  /-- The characters, or the first mild fault. -/
  text : Except Fault String
  /-- The fault that ended the string. -/
  stop : Option Fault
  /-- The text behind the string; empty if a fault ended it. -/
  rest : List Char

/-- The second half of a surrogate pair behind its first half: the combined character and the rest,
or the mild fault. A text that ends here or breaks the second escape is faulty anyway. -/
def readSecondHalf (high : Nat) : List Char → Except Fault (Char × List Char)
  | '\\' :: 'u' :: rest =>
    match readHex rest with
    | .ok (low, rest) =>
      if 0xDC00 ≤ low ∧ low ≤ 0xDFFF then
        .ok (Char.ofNat (0x10000 + (high - 0xD800) * 1024 + (low - 0xDC00)), rest)
      else .error .loneSurrogate
    | .error f => .error f
  | [] => .error .endOfString
  | ['\\'] => .error .endOfString
  | _ => .error .endOfEscape

/-- A string behind its opening quote. `seen` holds its characters so far, last first. -/
def readStringFrom : Nat → List Char → Option Fault → List Char → StringDraft
  | 0, _, mild, _ => ⟨.error (mild.getD .endOfString), some .endOfString, []⟩
  | fuel + 1, seen, mild, cs =>
    let ended (f : Fault) : StringDraft :=
      ⟨match mild with | some m => .error m | none => .error f, some f, []⟩
    match cs with
    | [] => ended .endOfString
    | '"' :: rest =>
      ⟨match mild with | some m => .error m | none => .ok (String.ofList seen.reverse), none, rest⟩
    | '\\' :: rest =>
      match rest with
      | [] => ended .endOfString
      | 'u' :: rest =>
        match readHex rest with
        | .error f => ended f
        | .ok (n, rest) =>
          -- half of a pair spoils the string, and the scan goes on behind it
          if 0xDC00 ≤ n ∧ n ≤ 0xDFFF then
            readStringFrom fuel seen (some (mild.getD .loneSurrogate)) rest
          else if 0xD800 ≤ n ∧ n ≤ 0xDBFF then
            match readSecondHalf n rest with
            | .ok (c, rest) => readStringFrom fuel (c :: seen) mild rest
            | .error f => readStringFrom fuel seen (some (mild.getD f)) rest
          else readStringFrom fuel (Char.ofNat n :: seen) mild rest
      | c :: rest =>
        match shortEscape? c with
        | some e => readStringFrom fuel (e :: seen) mild rest
        | none => ended .invalidEscape
    | c :: rest =>
      if c.toNat < 32 then ended .controlCharacter
      else readStringFrom fuel (c :: seen) mild rest

/-- A string behind its opening quote. -/
def readString (cs : List Char) : StringDraft :=
  readStringFrom (cs.length + 1) [] none cs

/-! ## Numbers and words -/

/-- The value of decimal digits. -/
def digitsValue (ds : List Char) : Nat :=
  ds.foldl (fun n d => n * 10 + (d.toNat - '0'.toNat)) 0

/-- The exponent behind its letter: the power and the rest. -/
def readExponent (cs : List Char) : Except Fault (Int × List Char) :=
  let (negative, cs) := match cs with
    | '+' :: rest => (false, rest)
    | '-' :: rest => (true, rest)
    | _ => (false, cs)
  match cs.takeWhile Char.isDigit, cs.dropWhile Char.isDigit with
  | [], [] => .error .endOfNumber
  | [], _ => .error .invalidNumber
  | ds, rest =>
    let n : Int := digitsValue ds
    .ok (if negative then -n else n, rest)

/-- The exponent of a number, if it has one. -/
def readScale (cs : List Char) : Except Fault (Option Int × List Char) :=
  match cs with
  | c :: rest =>
    if c = 'e' || c = 'E' then (readExponent rest).map fun (e, rest) => (some e, rest)
    else .ok (none, cs)
  | [] => .ok (none, [])

/-- The digits behind the point of a number, if it has one. -/
def readFraction (cs : List Char) : Except Fault (Option (List Char) × List Char) :=
  match cs with
  | '.' :: rest =>
    match rest.takeWhile Char.isDigit, rest.dropWhile Char.isDigit with
    | [], [] => .error .endOfNumber
    | [], _ => .error .invalidNumber
    | ds, rest => .ok (some ds, rest)
  | _ => .ok (none, cs)

/-- The digits before the point: a zero stands alone. -/
def readWhole : List Char → Except Fault (List Char × List Char)
  | [] => .error .endOfNumber
  | '0' :: rest =>
    match rest with
    | c :: _ => if c.isDigit then .error .invalidNumber else .ok (['0'], rest)
    | [] => .ok (['0'], [])
  | c :: rest =>
    if c.isDigit then .ok (c :: rest.takeWhile Char.isDigit, rest.dropWhile Char.isDigit)
    else .error .invalidNumber

/-- A number without its sign, and the rest. -/
def readNumber (negative : Bool) (cs : List Char) : Except Fault (Number × List Char) := do
  let (whole, cs) ← readWhole cs
  let (fraction, cs) ← readFraction cs
  let (scale, cs) ← readScale cs
  match fraction, scale with
  | none, none => return (.ofWhole negative (digitsValue whole), cs)
  | _, _ =>
    let ds := fraction.getD []
    return (.decimal negative (digitsValue (whole ++ ds)) (scale.getD 0 - ds.length), cs)

/-- The rest of the text behind a word whose first letter is read. -/
def readWord : List Char → List Char → Except Fault (List Char)
  | [], cs => .ok cs
  | _ :: _, [] => .error .endOfWord
  | w :: ws, c :: cs => if w = c then readWord ws cs else .error .expectedWord

/-! ## Values -/

/-- A blank between the parts of a JSON text. -/
def isSpace (c : Char) : Bool :=
  c == ' ' || c == '\n' || c == '\t' || c == '\r'

/-- The text from its first character that is no blank. -/
def skipSpace (cs : List Char) : List Char :=
  cs.dropWhile isSpace

/-- The draft of a scalar and the text behind it. -/
def ofScalar {α : Type} (draft : α → Draft) :
    Except Fault (α × List Char) → Draft × Option (List Char)
  | .ok (a, rest) => (draft a, some rest)
  | .error f => (.fault f, none)

mutual

/-- The value that begins here, and the text behind it unless a fault ended the reading. -/
def readValue : Nat → List Char → Draft × Option (List Char)
  | 0, _ => (.fault .endOfValue, none)
  | fuel + 1, cs =>
    match skipSpace cs with
    | [] => (.fault .endOfValue, none)
    | '"' :: rest =>
      let s := readString rest
      (.string s.text s.stop, if s.stop.isSome then none else some s.rest)
    | '[' :: rest =>
      let (items, stop, rest) := readItems fuel true rest
      (.array items stop, rest)
    | '{' :: rest =>
      let (members, stop, rest) := readMembers fuel true rest
      (.object members stop, rest)
    | 'n' :: rest => ofScalar (fun _ => .null) ((readWord ['u', 'l', 'l'] rest).map ((), ·))
    | 't' :: rest => ofScalar (fun _ => .bool true) ((readWord ['r', 'u', 'e'] rest).map ((), ·))
    | 'f' :: rest =>
      ofScalar (fun _ => .bool false) ((readWord ['a', 'l', 's', 'e'] rest).map ((), ·))
    | '-' :: rest => ofScalar .number (readNumber true rest)
    | c :: rest =>
      if c.isDigit then ofScalar .number (readNumber false (c :: rest))
      else (.fault .expectedValue, none)

/-- The items up to the end of an array. -/
def readItems : Nat → Bool → List Char → List Draft × Option Fault × Option (List Char)
  | 0, _, _ => ([], some .endOfArray, none)
  | fuel + 1, first, cs =>
    let item (cs : List Char) : List Draft × Option Fault × Option (List Char) :=
      match readValue fuel cs with
      | (d, none) => ([d], none, none)
      | (d, some rest) =>
        let (ds, stop, rest) := readItems fuel false rest
        (d :: ds, stop, rest)
    match skipSpace cs with
    | [] => ([], some .endOfArray, none)
    | ']' :: rest => ([], none, some rest)
    | c :: rest =>
      if first then item (c :: rest)
      else if c = ',' then
        match skipSpace rest with
        | [] => ([], some .endOfValue, none)
        | ']' :: _ => ([], some .commaBeforeArrayEnd, none)
        | rest => item rest
      else ([], some .expectedArrayEnd, none)

/-- The members up to the end of an object. -/
def readMembers : Nat → Bool → List Char →
    List (Except Fault String × Draft) × Option Fault × Option (List Char)
  | 0, _, _ => ([], some .endOfObject, none)
  | fuel + 1, first, cs =>
    let member (cs : List Char) :
        List (Except Fault String × Draft) × Option Fault × Option (List Char) :=
      let name := readString cs
      match name.stop, name.text with
      | some f, .error mild =>
        -- a mild fault of the name comes in front of the one that ended it
        if mild = f then ([], some f, none) else ([(.error mild, .fault f)], none, none)
      | some f, .ok _ => ([], some f, none)
      | none, text =>
        match skipSpace name.rest with
        | [] => ([(text, .fault .endOfObject)], none, none)
        | ':' :: rest =>
          match readValue fuel rest with
          | (d, none) => ([(text, d)], none, none)
          | (d, some rest) =>
            let (ms, stop, rest) := readMembers fuel false rest
            ((text, d) :: ms, stop, rest)
        | _ => ([(text, .fault .expectedColon)], none, none)
    match skipSpace cs with
    | [] => ([], some .endOfObject, none)
    | '}' :: rest => ([], none, some rest)
    | c :: rest =>
      if first then
        if c = '"' then member rest else ([], some .expectedName, none)
      else if c = ',' then
        match skipSpace rest with
        | [] => ([], some .endOfValue, none)
        | '"' :: rest => member rest
        | '}' :: _ => ([], some .commaBeforeObjectEnd, none)
        | _ => ([], some .expectedName, none)
      else ([], some .expectedObjectEnd, none)

end

/-- The draft of a text, and whether only blanks follow the value. Every step of the reading
consumes a character or enters a value, so twice the length of the text bounds their number. -/
def readText (cs : List Char) : Draft × Bool :=
  match readValue (2 * cs.length + 2) cs with
  | (d, none) => (d, true)
  | (d, some rest) => (d, (skipSpace rest).isEmpty)

/-! ## Drafts of values -/

namespace Draft

mutual

/-- The draft of a value, which has no faults. -/
def ofValue : Value → Draft
  | .null => .null
  | .bool b => .bool b
  | .number n => .number n
  | .string s => .string (.ok s) none
  | .array items => .array (ofItems items) none
  | .object members => .object (ofMembers members) none

/-- The drafts of values. -/
def ofItems : List Value → List Draft
  | [] => []
  | v :: rest => ofValue v :: ofItems rest

/-- The drafts of members. -/
def ofMembers : List (String × Value) → List (Except Fault String × Draft)
  | [] => []
  | (name, v) :: rest => (.ok name, ofValue v) :: ofMembers rest

end

mutual

/-- A draft that is passed over: only faults that keep the text from being JSON count. -/
def passOver : Draft → Except Fault Unit
  | .null => .ok ()
  | .bool _ => .ok ()
  | .number _ => .ok ()
  | .string _ stop => ended stop
  | .array items stop => do
    passOverItems items
    ended stop
  | .object members stop => do
    passOverMembers members
    endedObject members.isEmpty stop
  | .fault f => .error f.passedOver
where
  /-- The fault behind the last part, if there is one. -/
  ended : Option Fault → Except Fault Unit
    | none => .ok ()
    | some f => .error f.passedOver
  /-- A text that ends behind a comma ends inside the object. -/
  endedObject (empty : Bool) : Option Fault → Except Fault Unit
    | none => .ok ()
    | some f => .error (if !empty && f = .endOfValue then .endOfObject else f.passedOver)

/-- Items that are passed over. -/
def passOverItems : List Draft → Except Fault Unit
  | [] => .ok ()
  | d :: rest => do
    passOver d
    passOverItems rest

/-- Members that are passed over; their names may be spoiled. -/
def passOverMembers : List (Except Fault String × Draft) → Except Fault Unit
  | [] => .ok ()
  | (_, d) :: rest => do
    passOver d
    passOverMembers rest

end

/-- How deep values may be nested where any value is allowed. -/
def depthLimit : Nat := 127

mutual

/-- The value of a draft of which any shape is allowed, `room` levels deep at most. Decimals become
the shortest ones that name the same binary number. -/
def anyValue (room : Nat) : Draft → Except Fault Value
  | .null => .ok .null
  | .bool b => .ok (.bool b)
  | .number n =>
    match n.rounded? with
    | some n => .ok (.number n)
    | none => .error .numberOutOfRange
  | .string text stop =>
    match text, stop with
    | .error f, _ => .error f
    | .ok _, some f => .error f
    | .ok s, none => .ok (.string s)
  | .array items stop =>
    if room = 0 then .error .tooDeep
    else do
      let items ← anyItems (room - 1) items
      match stop with
      | some f => .error f
      | none => return .array items
  | .object members stop =>
    if room = 0 then .error .tooDeep
    else do
      let members ← anyMembers (room - 1) members
      match stop with
      | some f => .error f
      | none => return .object members
  | .fault f => .error f

/-- The values of items. -/
def anyItems (room : Nat) : List Draft → Except Fault (List Value)
  | [] => .ok []
  | d :: rest => do
    let v ← anyValue room d
    let vs ← anyItems room rest
    return v :: vs

/-- The values of members. -/
def anyMembers (room : Nat) :
    List (Except Fault String × Draft) → Except Fault (List (String × Value))
  | [] => .ok []
  | (name, d) :: rest => do
    let name ← name
    let v ← anyValue room d
    let vs ← anyMembers room rest
    return (name, v) :: vs

end

end Draft

/-- The value of a text in which any shape is allowed, its objects sorted by name. -/
def Value.read? (cs : List Char) : Except Fault Value :=
  match readText cs with
  | (d, complete) => do
    let v ← d.anyValue Draft.depthLimit
    if complete then return v.sorted else .error .textAfterValue

end AppBundle.Json
