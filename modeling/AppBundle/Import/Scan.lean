import AppBundle.Text.Blank
import AppBundle.Text.Bytes
import AppBundle.Text.Lines
import AppBundle.Text.Search
import AppBundle.Text.Word

/-!
# Imports in code

Finds the module specifiers that code imports, without reading the code as a program: a specifier is
a string in the place where an import names its module. There are two such places.

* A *clause* is one of the words `import` and `export` at the start of a line, or behind a blank or
  a semicolon, then names, braces, stars, commas and blanks that end in the word `from`, or only
  blanks, then a string.
* A *call* is the word `import` and a string in parentheses.

Scanning cuts the code into *chunks*: the characters that stay as they are and the specifiers
between them. Put together again, the chunks are the code.
-/

namespace AppBundle.Import

open AppBundle.Text

/-- A part of code: a character that is none of a specifier, or a whole specifier. -/
inductive Chunk where
  /-- A character of the code. -/
  | plain (c : Char)
  /-- The characters of a specifier, without the quotes around it. -/
  | specifier (cs : List Char)
  deriving Repr, DecidableEq

/-- The text of a chunk. -/
def Chunk.text : Chunk → List Char
  | .plain c => [c]
  | .specifier cs => cs

/-- An import in front of a text: what stands before the specifier, the specifier, what stands
between it and the end of the import, and the rest. -/
structure Found where
  /-- The text up to the specifier, with its quote. -/
  front : List Char
  /-- The specifier. -/
  specifier : List Char
  /-- The text behind the specifier, from its quote on. -/
  back : List Char
  /-- The text behind the import. -/
  rest : List Char

/-- A quote around a specifier. -/
def isQuote (c : Char) : Bool :=
  c == '"' || c == '\''

/-- A character that ends a specifier. -/
def endsSpecifier (c : Char) : Bool :=
  isQuote c || c == '\n'

/-- A string in front of a text: at least one character between quotes, all on one line. -/
def stringAt? (cs : List Char) : Option Found :=
  match cs with
  | [] => none
  | q :: rest =>
    if isQuote q then
      let specifier := rest.takeWhile (!endsSpecifier ·)
      match rest.dropWhile (!endsSpecifier ·) with
      | e :: behind =>
        if isQuote e && !specifier.isEmpty then some ⟨[q], specifier, [e], behind⟩ else none
      | [] => none
    else none

/-- The import with more text in front of it. -/
def Found.behind (front : List Char) (f : Found) : Found :=
  { f with front := front ++ f.front }

/-- A character of the names that an import binds. -/
def isBinding (c : Char) : Bool :=
  isWord c || isBlank c || c ∈ ['*', '$', '{', '}', ',']

/-- The word before the specifier of an import that binds names. -/
def fromWord : List Char := ['f', 'r', 'o', 'm']

/-- Whether what stands between the first word and the string makes an import: only blanks, or names
with the word `from` behind them. -/
def isBindingText (cs : List Char) : Bool :=
  let named := trimEnd cs
  named.isEmpty || (endsIn fromWord named && named.length > 4)

/-- An import that goes on behind its first word. -/
def bindingAt? (cs : List Char) : Option Found :=
  let binding := cs.takeWhile isBinding
  if isBindingText binding then
    (stringAt? (cs.dropWhile isBinding)).map (·.behind binding)
  else none

/-- The word of an import or of a call. -/
def importWord : List Char := ['i', 'm', 'p', 'o', 'r', 't']

/-- The word of an import that passes names on. -/
def exportWord : List Char := ['e', 'x', 'p', 'o', 'r', 't']

/-- An import that begins with its first word. -/
def wordAt? (cs : List Char) : Option Found :=
  match after? importWord cs with
  | some rest => (bindingAt? rest).map (·.behind importWord)
  | none =>
    match after? exportWord cs with
    | some rest => (bindingAt? rest).map (·.behind exportWord)
    | none => none

/-- A clause behind a given character: at the start of a line, or with the blank or semicolon before
its first word. -/
def clauseAt? (before : Option Char) (cs : List Char) : Option Found :=
  let atStart := if before.isNone || before = some '\n' then wordAt? cs else none
  atStart <|> match cs with
    | c :: rest => if c = ';' || isBlank c then (wordAt? rest).map (·.behind [c]) else none
    | [] => none

/-- The call with the blanks and the parenthesis that end it. -/
def Found.closed? (f : Found) : Option Found :=
  match f.rest.dropWhile isBlank with
  | ')' :: rest => some { f with back := f.back ++ f.rest.takeWhile isBlank ++ [')'], rest := rest }
  | _ => none

/-- A call behind a given character, which is none of a word. -/
def callAt? (before : Option Char) (cs : List Char) : Option Found :=
  if (before.map isWord).getD false then none
  else do
    let rest ← after? importWord cs
    let blanks := rest.takeWhile isBlank
    match rest.dropWhile isBlank with
    | '(' :: inner => do
      let inside := inner.takeWhile isBlank
      let found ← stringAt? (inner.dropWhile isBlank)
      let found ← found.closed?
      return found.behind (importWord ++ blanks ++ '(' :: inside)
    | _ => none

/-- An import in front of a text, behind a given character. -/
def importAt? (before : Option Char) (cs : List Char) : Option Found :=
  clauseAt? before cs <|> callAt? before cs

/-- The chunks of code behind a given character. Every import takes at least one character, so as
many steps as there are characters are enough. -/
def chunksFrom : Nat → Option Char → List Char → List Chunk
  | 0, _, cs => cs.map .plain
  | _ + 1, _, [] => []
  | fuel + 1, before, c :: rest =>
    match importAt? before (c :: rest) with
    | some f =>
      f.front.map .plain ++ .specifier f.specifier :: f.back.map .plain
        ++ chunksFrom fuel f.back.getLast? f.rest
    | none => .plain c :: chunksFrom fuel (some c) rest

/-- The chunks of code. -/
def chunks (code : List Char) : List Chunk :=
  chunksFrom code.length none code

end AppBundle.Import

namespace AppBundle

/-- A module specifier in code. -/
structure Import where
  /-- The specifier without its quotes. -/
  specifier : String
  /-- The number of bytes before it. -/
  start : Nat
  /-- The number of bytes up to its end. -/
  stop : Nat
  /-- The number of line feeds before it. -/
  line : Nat
  deriving Repr, DecidableEq

namespace Import

open AppBundle.Text

/-- The imports among chunks that begin at a given byte and line. -/
def locate : Nat → Nat → List Chunk → List Import
  | _, _, [] => []
  | offset, line, .plain c :: rest =>
    locate (offset + c.utf8Size) (if c = '\n' then line + 1 else line) rest
  | offset, line, .specifier cs :: rest =>
    let stop := offset + byteLength cs
    ⟨String.ofList cs, offset, stop, line⟩ :: locate stop line rest

/-- The imports of code, from left to right. -/
def scan (code : String) : List Import :=
  locate 0 0 (chunks code.toList)

end Import

end AppBundle
