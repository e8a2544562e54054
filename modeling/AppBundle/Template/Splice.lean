import AppBundle.App.Basic
import AppBundle.Generated.Basic
import AppBundle.Text.Bytes

/-!
# Putting calls into a template

The attribute of every handler is replaced by one that calls the handler through the registry. The
attributes are taken from the last to the first, so that the offsets of those still to come stay
right, and everything outside them stays as it is.

A handler is skipped if its range cannot be right: if it lies outside the template, reaches into an
attribute already replaced, splits a character, or does not begin with the name of the attribute.
Handlers of sign-in have no place in the template.
-/

namespace AppBundle

open AppBundle.Text

/-- The attribute that calls a handler through the registry. -/
def Handler.callText (h : Handler) : String :=
  h.attr ++ "=\"" ++ registryName ++ "." ++ h.id ++ "(" ++ String.intercalate ", " h.params ++ ")\""

/-- The offset at which the attribute of a handler begins. -/
def Handler.first (h : Handler) : Nat :=
  h.attrSpan.start.offset

/-- The offset at which the attribute of a handler ends. -/
def Handler.last (h : Handler) : Nat :=
  h.attrSpan.stop.offset

/-- Why the attribute of a handler is not replaced. -/
inductive SkipReason where
  /-- Its range is no range of the template. -/
  | outside (first last : Nat)
  /-- Its range reaches into an attribute that is replaced. -/
  | overlaps (first last : Nat)
  /-- Its range begins or ends inside a character. -/
  | splits (first last : Nat)
  /-- Another text stands at its place. -/
  | unexpected (attr : String) (first : Nat) (found : String)
  deriving Repr, DecidableEq

/-- The wording of a reason. -/
def SkipReason.message : SkipReason → String
  | .outside first last => range first last ++ " is outside the template"
  | .overlaps first last => range first last ++ " overlaps another handler"
  | .splits first last => range first last ++ " splits a character"
  | .unexpected attr first found =>
    "expected `" ++ attr ++ "` at byte " ++ decimal first ++ ", found `" ++ found ++ "`"
where
  /-- The wording of a range. -/
  range (first last : Nat) : String :=
    "range " ++ decimal first ++ ".." ++ decimal last

/-- A template while attributes are replaced. -/
structure Splicing where
  /-- The part of the template in front of the replaced attributes, as it was. -/
  front : List Char
  /-- The part from the first replaced attribute on, as it will be. -/
  tail : List Char
  /-- The handlers that were skipped, the last one first. -/
  skipped : List (Handler × SkipReason)

namespace Splicing

/-- Nothing is replaced yet. -/
def start (template : String) : Splicing :=
  ⟨template.toList, [], []⟩

/-- What stands before, in and behind a range of a text, if both its ends are positions in the
text. -/
def around? (first last : Nat) (cs : List Char) : Option (List Char × List Char × List Char) := do
  let (before, rest) ← cutAt? first cs
  let (inside, behind) ← cutAt? (last - first) rest
  return (before, inside, behind)

/-- The number of characters that a message shows of a text that was found. -/
def shownCharacters : Nat := 24

/-- What stands before and behind the attribute of a handler in the part that is still as it was, or
why it cannot be replaced. `length` is the length of the whole template. -/
def place (length : Nat) (front : List Char) (h : Handler) :
    Except SkipReason (List Char × List Char) :=
  if h.last < h.first ∨ length < h.last then .error (.outside h.first h.last)
  else if byteLength front < h.last then .error (.overlaps h.first h.last)
  else
    match around? h.first h.last front with
    | none => .error (.splits h.first h.last)
    | some (before, inside, behind) =>
      if (after? h.attr.toList inside).isSome then .ok (before, behind)
      else .error (.unexpected h.attr h.first (String.ofList (inside.take shownCharacters)))

/-- The template with the attribute of one more handler replaced, if it can be. -/
def step (length : Nat) (r : Splicing) (h : Handler) : Splicing :=
  match place length r.front h with
  | .ok (before, behind) =>
    { r with front := before, tail := h.callText.toList ++ behind ++ r.tail }
  | .error reason => { r with skipped := (h, reason) :: r.skipped }

/-- The text of the template. -/
def text (r : Splicing) : String :=
  String.ofList (r.front ++ r.tail)

end Splicing

/-- The handlers that have a place in the template, from the last to the first; those that begin at
the same offset stay in order. -/
def placedHandlers (hs : List Handler) : List Handler :=
  (hs.filter (!·.isSignIn)).mergeSort fun a b => b.first ≤ a.first

/-- The template with the attributes of handlers replaced. -/
def spliceHandlers (template : String) (hs : List Handler) : Splicing :=
  (placedHandlers hs).foldl (Splicing.step (byteLength template.toList)) (.start template)

/-- What is logged about the handlers that were skipped. -/
def Splicing.warnings (r : Splicing) : List String :=
  r.skipped.reverse.map fun (_, reason) => "skipping handler rewrite: " ++ reason.message

end AppBundle
