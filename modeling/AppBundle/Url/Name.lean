import AppBundle.Text.Lines
import AppBundle.Url.Name.Direction
import AppBundle.Url.Name.Fold
import AppBundle.Url.Name.Joining
import AppBundle.Url.Punycode

/-!
# Host names

A name is folded and then read label by label. A label beyond ASCII is written in ASCII; one that is
written so already has to be what its own text would be written as. A label begins with no mark, and
its joiners stand where they change something. If any part of a name runs to the left, every label
keeps one direction.
-/

namespace AppBundle.Url

open AppBundle.Text

/-- A label of a name. -/
structure Label where
  /-- The text that it stands for. -/
  meaning : List Char
  /-- How it is written in ASCII. -/
  ascii : List Char
  deriving Repr, DecidableEq

/-- Whether a text has only ASCII characters. -/
def isAscii (cs : List Char) : Bool :=
  cs.all (·.toNat < 128)

/-- Whether a text beyond ASCII may be a label. -/
def isLabel (cs : List Char) : Bool :=
  !(cs.head?.map isMark).getD false && joinersFit [] cs

/-- The label that stands behind the mark of encoded labels: the text that it writes has to be one
that folding leaves as it is. -/
def encodedLabel? (code : List Char) : Option Label := do
  if code.length > 2000 ∨ code.getLast?.getD '-' = '-' ∨ !isAscii code then none
  let meaning ← readLabel? code
  if foldName? meaning = some meaning && isLabel meaning then
    return ⟨meaning, 'x' :: 'n' :: '-' :: '-' :: code⟩
  else none

/-- The label that a folded text writes. -/
def label? : List Char → Option Label
  | 'x' :: 'n' :: '-' :: '-' :: code => encodedLabel? code
  | cs =>
    if isAscii cs then some ⟨cs, cs⟩
    else if cs.length ≤ 1000 && isLabel cs then some ⟨cs, asciiLabel cs⟩
    else none

/-- Whether the labels can be read safely in the directions of their characters. -/
def directionsFit (labels : List Label) : Bool :=
  !(labels.any fun l => l.meaning.any fun c => (Direction.of c).leads)
    || labels.all fun l => keepsDirection l.meaning

/-- Characters that no host may hold. -/
def isForbidden (c : Char) : Bool :=
  c ∈ ['\x00', '\t', '\n', '\r', ' ', '#', '/', ':', '<', '>', '?', '@', '[', '\\', ']', '^', '|']

/-- Characters that no name may hold once it is folded. -/
def isForbiddenInName (c : Char) : Bool :=
  isForbidden c || c.toNat < 32 || c.toNat = 127 || c = '%'

/-- A name in small ASCII letters. -/
def asciiName? (name : List Char) : Option (List Char) := do
  let folded ← foldName? name
  if folded.any isForbiddenInName then none
  let labels ← (split '.' folded).mapM label?
  if directionsFit labels then return join ['.'] (labels.map (·.ascii)) else none

end AppBundle.Url
