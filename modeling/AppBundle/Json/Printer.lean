import AppBundle.Json.Value

/-!
# Writing JSON

Two forms of a value: the compact one on a single line, and the wide one with two blanks of
indentation for every level. In a string only quotes, backslashes and control characters are
escaped, so a compact text never holds a line feed.
-/

namespace AppBundle.Json

/-- A hexadecimal digit in lower case. -/
def hexDigit (n : Nat) : Char :=
  if n < 10 then Char.ofNat ('0'.toNat + n) else Char.ofNat ('a'.toNat + (n - 10))

/-- The text of a character inside a string. -/
def escapeChar (c : Char) : List Char :=
  if c = '"' then ['\\', '"']
  else if c = '\\' then ['\\', '\\']
  else if c = '\x08' then ['\\', 'b']
  else if c = '\x0c' then ['\\', 'f']
  else if c = '\n' then ['\\', 'n']
  else if c = '\r' then ['\\', 'r']
  else if c = '\t' then ['\\', 't']
  else if c.toNat < 32 then
    ['\\', 'u', '0', '0', hexDigit (c.toNat / 16), hexDigit (c.toNat % 16)]
  else [c]

/-- The text of a string. -/
def quoteString (s : String) : List Char :=
  '"' :: s.toList.flatMap escapeChar ++ ['"']

namespace Value

mutual

/-- The compact text of a value. -/
def print : Value → List Char
  | .null => ['n', 'u', 'l', 'l']
  | .bool true => ['t', 'r', 'u', 'e']
  | .bool false => ['f', 'a', 'l', 's', 'e']
  | .number n => n.text
  | .string s => quoteString s
  | .array items => '[' :: printItems items ++ [']']
  | .object members => '{' :: printMembers members ++ ['}']

/-- The items of an array with commas between them. -/
def printItems : List Value → List Char
  | [] => []
  | [v] => print v
  | v :: w :: rest => print v ++ ',' :: printItems (w :: rest)

/-- The members of an object with commas between them. -/
def printMembers : List (String × Value) → List Char
  | [] => []
  | [(name, v)] => quoteString name ++ ':' :: print v
  | (name, v) :: m :: rest => quoteString name ++ ':' :: print v ++ ',' :: printMembers (m :: rest)

end

/-- A new line with the indentation of a level. -/
def newLine (level : Nat) : List Char :=
  '\n' :: List.replicate (2 * level) ' '

mutual

/-- The wide text of a value whose first line stands at an indentation. -/
def printWide (level : Nat) : Value → List Char
  | .array items =>
    match items with
    | [] => ['[', ']']
    | _ => '[' :: printWideItems (level + 1) items ++ newLine level ++ [']']
  | .object members =>
    match members with
    | [] => ['{', '}']
    | _ => '{' :: printWideMembers (level + 1) members ++ newLine level ++ ['}']
  | .null => print .null
  | .bool b => print (.bool b)
  | .number n => n.text
  | .string s => quoteString s

/-- The items of an array, each on a line of its own. -/
def printWideItems (level : Nat) : List Value → List Char
  | [] => []
  | [v] => newLine level ++ printWide level v
  | v :: w :: rest =>
    newLine level ++ printWide level v ++ ',' :: printWideItems level (w :: rest)

/-- The members of an object, each on a line of its own. -/
def printWideMembers (level : Nat) : List (String × Value) → List Char
  | [] => []
  | [(name, v)] => newLine level ++ quoteString name ++ ':' :: ' ' :: printWide level v
  | (name, v) :: m :: rest =>
    newLine level ++ quoteString name ++ ':' :: ' ' :: printWide level v
      ++ ',' :: printWideMembers level (m :: rest)

end

/-- The compact text of a value. -/
def compact (v : Value) : String :=
  String.ofList v.print

/-- The wide text of a value. -/
def wide (v : Value) : String :=
  String.ofList (v.printWide 0)

end Value

end AppBundle.Json
