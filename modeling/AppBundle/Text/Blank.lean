/-!
# Blank characters

The blank characters of general text, and trimming. Blank is a property of characters of every
script: besides the ASCII blanks there are the next-line control, the no-break space and the spaces
and separators of the general punctuation block.
-/

namespace AppBundle.Text

/-- A blank character. -/
def isBlank (c : Char) : Bool :=
  let n := c.toNat
  (9 ≤ n && n ≤ 13) || n == 0x20 || n == 0x85 || n == 0xA0 || n == 0x1680
    || (0x2000 ≤ n && n ≤ 0x200A) || n == 0x2028 || n == 0x2029 || n == 0x202F
    || n == 0x205F || n == 0x3000

/-- The text from its first character outside the class. -/
def trimLeft (drop : Char → Bool) (cs : List Char) : List Char :=
  cs.dropWhile drop

/-- The text up to its last character outside the class. -/
def trimRight (drop : Char → Bool) (cs : List Char) : List Char :=
  (cs.reverse.dropWhile drop).reverse

/-- The text without its leading and trailing blanks. -/
def trim (cs : List Char) : List Char :=
  trimRight isBlank (trimLeft isBlank cs)

/-- The text without its trailing blanks. -/
def trimEnd (cs : List Char) : List Char :=
  trimRight isBlank cs

end AppBundle.Text

namespace AppBundle

/-- The string without its leading and trailing blanks. -/
def trimmed (s : String) : String :=
  String.ofList (Text.trim s.toList)

/-- The string without its trailing blanks. -/
def trimmedEnd (s : String) : String :=
  String.ofList (Text.trimEnd s.toList)

end AppBundle
