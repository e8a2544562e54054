/-!
# Searching a text

Occurrences of one text in another, from left to right. Counting and replacing go on behind an
occurrence, so occurrences never overlap.
-/

namespace AppBundle.Text

/-- What follows a given beginning, if the text has it. -/
def after? : List Char → List Char → Option (List Char)
  | [], cs => some cs
  | _ :: _, [] => none
  | p :: ps, c :: cs => if p = c then after? ps cs else none

/-- Whether the text ends in a given way. -/
def endsIn (ending cs : List Char) : Bool :=
  ending.isSuffixOf cs

/-- What stands before a given ending, if the text has it. -/
def before? (ending cs : List Char) : Option (List Char) :=
  (after? ending.reverse cs.reverse).map List.reverse

/-- Whether a text occurs in another. -/
def contains (needle : List Char) : List Char → Bool
  | [] => needle.isEmpty
  | c :: rest => (after? needle (c :: rest)).isSome || contains needle rest

/-- The number of occurrences of a text, none overlapping another. `skip` characters of the last
occurrence are still ahead. -/
def countFrom (needle : List Char) : Nat → List Char → Nat
  | _, [] => 0
  | skip + 1, _ :: rest => countFrom needle skip rest
  | 0, c :: rest =>
    if (after? needle (c :: rest)).isSome then countFrom needle (needle.length - 1) rest + 1
    else countFrom needle 0 rest

/-- The number of occurrences of a nonempty text. -/
def count (needle cs : List Char) : Nat :=
  countFrom needle 0 cs

/-- Carriage returns directly before a line feed are left out. -/
def unifyFeeds : List Char → List Char
  | [] => []
  | '\r' :: '\n' :: rest => '\n' :: unifyFeeds rest
  | c :: rest => c :: unifyFeeds rest

end AppBundle.Text

namespace AppBundle

/-- Whether one string occurs in another. -/
def occursIn (needle s : String) : Bool :=
  Text.contains needle.toList s.toList

/-- Whether a string begins in a given way. -/
def beginsWith (beginning s : String) : Bool :=
  (Text.after? beginning.toList s.toList).isSome

end AppBundle
