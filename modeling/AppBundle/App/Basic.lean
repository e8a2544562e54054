import AppBundle.Text.Search

/-!
# Apps

A parsed app file: its text, its template, its scripts and the handlers written into attributes of
the template. Positions are recorded where the file was parsed and are taken as they are: an offset
may lie anywhere, also outside the template.
-/

namespace AppBundle

/-- A position in a text. -/
structure Position where
  /-- The line, counted from one. -/
  line : Nat
  /-- The column, counted from zero. -/
  column : Nat
  /-- The number of bytes before it. -/
  offset : Nat
  deriving Repr, DecidableEq, Inhabited

/-- The part of a text between two positions. -/
structure Span where
  /-- Where it begins. -/
  start : Position
  /-- Where it ends. -/
  stop : Position
  deriving Repr, DecidableEq, Inhabited

/-- When a script runs. -/
inductive Timing where
  /-- When the app is loaded; what it exports is shared. -/
  | sync
  /-- Once after loading, before anything is shown. -/
  | init
  /-- Once after the app was first shown. -/
  | ready
  deriving Repr, DecidableEq

/-- A script of an app. -/
structure Script where
  /-- The name of the script within the app. -/
  id : String
  /-- When it runs. -/
  kind : Timing
  /-- Its code. -/
  code : String
  /-- The module that holds it instead, if it is kept outside the app file. -/
  reference : Option String
  /-- Whether its code awaits. -/
  awaits : Bool
  /-- Its place in the app file. -/
  span : Span
  deriving Repr, DecidableEq

/-- The element that a handler belongs to. -/
structure Element where
  /-- Its tag. -/
  tag : String
  /-- Its name, if it has one. -/
  id : Option String
  /-- The line of its tag. -/
  line : Nat
  deriving Repr, DecidableEq

/-- The code of an event, written into an attribute. -/
structure Handler where
  /-- The name of the handler within the app. -/
  id : String
  /-- The name of the attribute. -/
  attr : String
  /-- Its code. -/
  code : String
  /-- Whether its code awaits. -/
  awaits : Bool
  /-- The parameters of its code. -/
  params : List String
  /-- The place of the whole attribute in the template. -/
  attrSpan : Span
  /-- The place of the code. -/
  codeSpan : Span
  /-- The element that has the attribute. -/
  element : Element
  deriving Repr, DecidableEq

/-- A parsed app file. -/
structure App where
  /-- The path or URL of the file. -/
  sourceId : String
  /-- The text of the file. -/
  content : String
  /-- The markup that offsets of handlers refer to. -/
  template : String
  /-- The scripts in the order of the file. -/
  scripts : List Script
  /-- The handlers in the order of the file. -/
  handlers : List Handler
  deriving Repr, DecidableEq

/-- How the names of handlers begin that answer to sign-in and not to markup. -/
def signInMark : String := "__auth"

/-- Whether a handler answers to sign-in; such a handler has no place in the template. -/
def Handler.isSignIn (h : Handler) : Bool :=
  beginsWith signInMark h.id

/-- The word for a kind of script. -/
def Timing.word : Timing → String
  | .sync => "sync"
  | .init => "init"
  | .ready => "ready"

end AppBundle
