import AppBundle.Text.Unprintable

/-!
# Quoted text

A text in double quotes as a diagnostic shows it: quotes and backslashes behind a backslash, the
usual short escapes, and a number in braces for every character without a picture of its own.
-/

namespace AppBundle.Text

/-- The escape of one character, if it has one. -/
def quoteEscape? (c : Char) : Option (List Char) :=
  if c = '"' then some ['\\', '"']
  else if c = '\\' then some ['\\', '\\']
  else if c = '\n' then some ['\\', 'n']
  else if c = '\r' then some ['\\', 'r']
  else if c = '\t' then some ['\\', 't']
  else if c = '\x00' then some ['\\', '0']
  else if isUnprintable c then
    some (['\\', 'u', '{'] ++ Nat.toDigits 16 c.toNat ++ ['}'])
  else none

/-- The text in quotes. -/
def quote (cs : List Char) : List Char :=
  '"' :: cs.flatMap (fun c => (quoteEscape? c).getD [c]) ++ ['"']

end AppBundle.Text

namespace AppBundle

/-- The string in quotes, as a diagnostic shows it. -/
def quoted (s : String) : String :=
  String.ofList (Text.quote s.toList)

/-- A list of strings in quotes, as a diagnostic shows it. -/
def quotedList (ss : List String) : String :=
  "[" ++ String.intercalate ", " (ss.map quoted) ++ "]"

end AppBundle
