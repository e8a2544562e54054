import AppBundle.Text.Blank
import AppBundle.Text.Lines
import AppBundle.Url.Basic

/-!
# Paths of URLs

A path is extended segment by segment. A segment of one point stands for the place itself and one of
two points for the place above; both may be written with escapes. In the path of a file, a drive
letter is never removed and repeated slashes at the front count as one.
-/

namespace AppBundle.Url

open AppBundle.Text

/-- A letter and a colon or bar. -/
def isDriveLetter : List Char → Bool
  | [c, m] => c.isAlpha && (m == ':' || m == '|')
  | _ => false

/-- A letter and a colon. -/
def isNormalDriveLetter : List Char → Bool
  | [c, ':'] => c.isAlpha
  | _ => false

/-- Whether a drive letter stands alone at the front. -/
def startsWithDriveLetter : List Char → Bool
  | a :: b :: rest =>
    isDriveLetter [a, b] && match rest with
      | [] => true
      | c :: _ => c ∈ ['/', '\\', '?', '#']
  | _ => false

/-- The path up to its last slash, with the slash, and the segment behind it. -/
def splitLast (path : List Char) : List Char × List Char :=
  let segment := (path.reverse.takeWhile (· ≠ '/')).reverse
  (path.take (path.length - segment.length), segment)

/-- The path without its last segment. -/
def dropSegment (kind : SchemeKind) (path : List Char) : List Char :=
  let (front, segment) := splitLast path
  if kind = .file && isNormalDriveLetter segment then path else front

/-- A path that ends in a slash, without that slash, unless it is the first or ends a drive
letter. -/
def dropSlash (path : List Char) : List Char :=
  match splitLast path.dropLast with
  | ([], _) => path
  | (_, segment) =>
    if startsWithDriveLetter (segment ++ ['/']) then path else path.dropLast

/-- A path with a slash at its end. -/
def closed (path : List Char) : List Char :=
  if path.getLast? = some '/' then path else path ++ ['/']

/-- A segment that stands for the place itself. -/
def isSingleDot (segment : List Char) : Bool :=
  String.ofList (segment.map Char.toLower) ∈ [".", "%2e"]

/-- A segment that stands for the place above. -/
def isDoubleDot (segment : List Char) : Bool :=
  String.ofList (segment.map Char.toLower) ∈ ["..", "%2e.", ".%2e", "%2e%2e"]

/-- A path while it is extended. -/
structure Extending where
  /-- The path so far. -/
  path : List Char
  /-- Whether the host still stands: a drive letter in front of the path drops it. -/
  host : Bool

/-- A tab or a line end. A text is read as if it held none, but the pieces between them are added to
a path one by one. -/
def isGap (c : Char) : Bool :=
  c == '\t' || c == '\n' || c == '\r'

/-- The pieces of a text between its gaps. -/
def solidPieces (cs : List Char) : List (List Char) :=
  (split '\t' (cs.map fun c => if isGap c then '\t' else c)).filter (!·.isEmpty)

/-- The path with a piece of a segment added, and where the segment begins. In the path of a file, a
drive letter alone is closed by a slash before anything is added to it, and what is added begins
behind that slash. -/
def addPiece (kind : SchemeKind) : List Char × Nat → List Char → List Char × Nat
  | (path, start), piece =>
    let piece := Part.path.encode piece
    if kind = .file && isNormalDriveLetter (path.drop 1) then (path ++ '/' :: piece, start + 1)
    else (path ++ piece, start)

/-- The path with a segment added. `more` says that a slash follows the segment. -/
def addSegment (kind : SchemeKind) (e : Extending) (segment : List Char) (more : Bool) :
    Extending :=
  let slash := if more then ['/'] else []
  let (path, start) := (solidPieces segment).foldl (addPiece kind) (e.path, e.path.length)
  let front := path.take start
  let segment := path.drop start
  if isDoubleDot segment then
    let front := if front.getLast? = some '/' then dropSlash front else front
    let front := dropSegment kind front
    { e with path := if more then closed front else front }
  else if isSingleDot segment then { e with path := closed front }
  else if kind = .file && start = 1 && isDriveLetter segment then
    ⟨front ++ segment.take 1 ++ ':' :: slash, false⟩
  else { e with path := path ++ slash }

/-- The path with all segments added. -/
def addSegments (kind : SchemeKind) : Extending → List (List Char) → Extending
  | e, [] => e
  | e, [segment] => addSegment kind e segment false
  | e, segment :: next :: rest =>
    addSegments kind (addSegment kind e segment true) (next :: rest)

/-- The path extended by a text of segments. -/
def extend (kind : SchemeKind) (e : Extending) (cs : List Char) : Extending :=
  let cs := if kind.isSpecial then cs.map fun c => if c = '\\' then '/' else c else cs
  let e := addSegments kind e (split '/' cs)
  if kind = .file then { e with path := '/' :: e.path.dropWhile (· = '/') } else e

end AppBundle.Url
