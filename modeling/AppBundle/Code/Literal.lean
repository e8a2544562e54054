/-!
# String literals in generated code

A text put between double quotes in generated code stands for itself: quotes and backslashes get a
backslash, and the line ends and the tab their short escapes. All other characters may stand in a
literal as they are.
-/

namespace AppBundle.Code

/-- A character inside a literal. -/
def escapeChar (c : Char) : List Char :=
  if c = '"' then ['\\', '"']
  else if c = '\\' then ['\\', '\\']
  else if c = '\n' then ['\\', 'n']
  else if c = '\r' then ['\\', 'r']
  else if c = '\t' then ['\\', 't']
  else [c]

/-- The text inside a literal. -/
def escape (s : String) : String :=
  String.ofList (s.toList.flatMap escapeChar)

/-- A text as a literal. -/
def literal (s : String) : String :=
  "\"" ++ escape s ++ "\""

end AppBundle.Code
