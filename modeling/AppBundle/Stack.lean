import AppBundle.Text.Blank
import AppBundle.Text.Lines
import AppBundle.Text.Numeral
import AppBundle.Text.Search
import AppBundle.Text.Word

/-!
# Stack traces

A stack trace is a message and the frames below it, each on a line of its own:

```text
    at name (file:line:column)
    at file:line:column
```

The word `async` may stand before the name. A file may hold colons, digits and parentheses, so a
frame is read from both ends: first the location at its end, then the word at its start, and what is
left between them is the file, or the shortest name that leaves a file behind a blank and a
parenthesis.
-/

namespace AppBundle

open AppBundle.Text

/-- A frame of a stack trace. -/
structure StackFrame where
  /-- The name of the function, if it has one. -/
  function : Option String
  /-- The file. -/
  file : String
  /-- The line, counted from one. -/
  line : Nat
  /-- The column, counted from one. -/
  column : Nat
  deriving Repr, DecidableEq

/-- A stack trace. -/
structure StackTrace where
  /-- What the error says. -/
  message : String
  /-- The frames, the innermost first. -/
  frames : List StackFrame
  deriving Repr, DecidableEq

namespace StackTrace

/-- A number at the end of a text behind a colon, with the text before the colon. Both texts are
given and returned from last to first. -/
def splitNumber? (reversed : List Char) : Option (List Char × List Char) :=
  match reversed.takeWhile isDecimal, reversed.dropWhile isDecimal with
  | [], _ => none
  | digits, ':' :: rest => some (rest, digits)
  | _, _ => none

/-- The text before the location at the end of a line, and the digits of its line and column. A
closing parenthesis and blanks may follow the location. -/
def splitLocation? (cs : List Char) : Option (List Char × List Char × List Char) := do
  let reversed := cs.reverse.dropWhile isBlank
  let reversed := match reversed with
    | ')' :: rest => rest
    | _ => reversed
  let (reversed, column) ← splitNumber? reversed
  let (reversed, line) ← splitNumber? reversed
  return (reversed.reverse, line.reverse, column.reverse)

/-- The text behind at least one blank. The text is never empty: if there is nothing behind the
blanks, it is the last of several blanks. -/
def afterBlanks? (cs : List Char) : Option (List Char) :=
  match cs.takeWhile isBlank, cs.dropWhile isBlank with
  | [], _ => none
  | blanks, [] => if 1 < blanks.length then some (blanks.drop (blanks.length - 1)) else none
  | _, rest => some rest

/-- The text behind the parenthesis that opens behind at least one blank. -/
def afterOpening? (cs : List Char) : Option (List Char) :=
  match cs with
  | c :: _ =>
    if isBlank c then
      match cs.dropWhile isBlank with
      | '(' :: rest => some rest
      | _ => none
    else none
  | [] => none

/-- The shortest name in front of a parenthesis and what stands behind that, which is not empty.
`seen` holds the characters of the name so far, the last one first. -/
def splitName? (seen : List Char) : List Char → Option (List Char × List Char)
  | [] => none
  | c :: rest =>
    let seen := c :: seen
    match afterOpening? rest with
    | some (f :: file) => some (seen.reverse, f :: file)
    | _ => splitName? seen rest

/-- What stands between the first word and the location, as a name and a file. -/
def splitCallee (cs : List Char) : Option (List Char) × List Char :=
  match splitName? [] cs with
  | some (name, file) => (some name, file)
  | none => (none, cs)

/-- The word before a frame. -/
def atWord : List Char := ['a', 't']

/-- The word before a function that awaits. -/
def asyncWord : List Char := ['a', 's', 'y', 'n', 'c']

/-- The text behind the word of a function that awaits, if it is there. -/
def dropAsync (cs : List Char) : List Char :=
  ((after? asyncWord cs).bind afterBlanks?).getD cs

/-- A line that has the form of a frame: the name, the file, and the digits of line and column. -/
def splitFrame? (cs : List Char) :
    Option ((Option (List Char) × List Char) × List Char × List Char) := do
  let (head, line, column) ← splitLocation? cs
  let rest ← after? atWord (head.dropWhile isBlank)
  let rest ← afterBlanks? rest
  return (splitCallee (dropAsync rest), line, column)

/-- What a line of a stack trace is. -/
inductive Line where
  /-- A frame. -/
  | frame (f : StackFrame)
  /-- It has the form of a frame, but its numbers cannot be read. -/
  | unreadable
  /-- Any other text. -/
  | text (s : String)
  deriving Repr, DecidableEq

/-- A line of a stack trace read. -/
def readLine (s : String) : Line :=
  match splitFrame? s.toList with
  | none => .text s
  | some ((name, file), line, column) =>
    match word32? line, word32? column with
    | some line, some column => .frame ⟨name.map String.ofList, String.ofList file, line, column⟩
    | _, _ => .unreadable

/-- The frames among lines. -/
def framesOf (ls : List Line) : List StackFrame :=
  ls.filterMap fun
    | .frame f => some f
    | _ => none

/-- The texts before the first frame. -/
def messageLines : List Line → List String
  | [] => []
  | .frame _ :: _ => []
  | .unreadable :: rest => messageLines rest
  | .text s :: rest => s :: messageLines rest

/-- A stack trace read: texts before the first frame are its message, and texts behind it count for
nothing. -/
def parse (raw : String) : StackTrace :=
  let ls := (stringLines raw).map readLine
  ⟨trimmed (String.intercalate "\n" (messageLines ls)), framesOf ls⟩

end StackTrace

end AppBundle
