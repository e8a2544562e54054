import AppBundle.SourceMap.Vlq
import AppBundle.Text.Lines

/-!
# Mappings

The mappings of a source map: for each generated line, segments that say which place in which source
the text from a column on comes from. Lines are separated by semicolons and segments by commas, and
every field of a segment is the difference to the total so far. The total of the generated column
starts anew on every line, the other totals go through the whole text.
-/

namespace AppBundle

open AppBundle.Text

/-- The place in a source that a segment comes from. Lines and columns count from zero. -/
structure SegmentOrigin where
  /-- The index of the source. -/
  source : Nat
  /-- The line of the source. -/
  line : Nat
  /-- The column of that line. -/
  column : Nat
  /-- The index of the name that stands there. -/
  name : Option Nat
  deriving Repr, DecidableEq

/-- A segment of a generated line. -/
structure Segment where
  /-- The column at which it begins, counted from zero. -/
  column : Nat
  /-- Where it comes from, if it comes from a source. -/
  source : Option SegmentOrigin
  deriving Repr, DecidableEq

/-- The segments of all generated lines. -/
structure Mappings where
  /-- The segments, line by line. -/
  lines : List (List Segment)
  deriving Repr, DecidableEq

namespace SourceMap

/-- The running totals. -/
structure Totals where
  /-- The column of the generated line. -/
  column : Nat
  /-- The index of the source. -/
  source : Nat
  /-- The line of the source. -/
  line : Nat
  /-- The column of the line of the source. -/
  sourceColumn : Nat
  /-- The index of the name. -/
  name : Nat
  deriving Repr, DecidableEq

/-- The totals before the first segment. -/
def Totals.zero : Totals := ⟨0, 0, 0, 0, 0⟩

/-- A total with a difference added. -/
def shift (field : MappingField) (line total : Nat) (delta : Int) : Except MappingFault Nat :=
  let next := (total : Int) + delta
  if next < 0 then .error (.negative field line) else .ok next.toNat

/-- The totals behind a segment with the given fields, and the segment they make up. -/
def Totals.apply (t : Totals) (line : Nat) : List Int → Except MappingFault (Totals × Segment)
  | [] => .error (.fields 0)
  | column :: fields => do
    let column ← shift .column line t.column column
    let t := { t with column }
    match fields with
    | [] => return (t, ⟨t.column, none⟩)
    | source :: sourceLine :: sourceColumn :: rest =>
      if 1 < rest.length then throw (.fields (rest.length + 4))
      let source ← shift .source line t.source source
      let sourceLine ← shift .sourceLine line t.line sourceLine
      let sourceColumn ← shift .sourceColumn line t.sourceColumn sourceColumn
      let t := { t with source, line := sourceLine, sourceColumn }
      match rest with
      | [] => return (t, ⟨t.column, some ⟨t.source, t.line, t.sourceColumn, none⟩⟩)
      | name :: _ =>
        let name ← shift .name line t.name name
        let t := { t with name }
        return (t, ⟨t.column, some ⟨t.source, t.line, t.sourceColumn, some t.name⟩⟩)
    | _ => throw (.fields (fields.length + 1))

/-- Whether every total fits 32 bits. -/
def Totals.fits (t : Totals) : Bool :=
  t.column ≤ maxWord32 && t.source ≤ maxWord32 && t.line ≤ maxWord32
    && t.sourceColumn ≤ maxWord32 && t.name ≤ maxWord32

/-- The segment of a piece that begins at a byte of a line, and the totals behind it. -/
def readSegment (t : Totals) (line offset : Nat) (piece : List Char) :
    Except MappingFault (Totals × Segment) := do
  let fields ← fieldsAt offset piece
  let (t, segment) ← t.apply line fields
  if t.fits then return (t, segment) else throw (.overflow offset)

/-- The segments of the pieces of a line. A piece without digits is no segment. -/
def readPieces (line : Nat) : Totals → Nat → List (List Char) →
    Except MappingFault (Totals × List Segment)
  | t, _, [] => .ok (t, [])
  | t, offset, piece :: rest =>
    if piece.isEmpty then readPieces line t (offset + 1) rest
    else do
      let (t, segment) ← readSegment t line offset piece
      let (t, segments) ← readPieces line t (offset + piece.length + 1) rest
      return (t, segment :: segments)

/-- The segments of lines that are counted from a given number on. Faults give the number of their
line in 32 bits, so lines behind the last such number are told by it. -/
def readLines : Totals → Nat → Nat → List (List Char) → Except MappingFault (List (List Segment))
  | _, _, _, [] => .ok []
  | t, number, offset, line :: rest => do
    let (t, segments) ←
      readPieces (min number maxWord32) { t with column := 0 } offset (split ',' line)
    let lines ← readLines t (number + 1) (offset + line.length + 1) rest
    return segments :: lines

/-- The mappings that a text holds. -/
def readMappings (text : String) : Except MappingFault Mappings :=
  (readLines .zero 1 0 (split ';' text.toList)).map Mappings.mk

end SourceMap

/-! ## Looking up a place -/

/-- A place in a source. -/
structure SourcePlace where
  /-- The index of the source. -/
  source : Nat
  /-- The line, counted from one. -/
  line : Nat
  /-- The column, counted from zero. -/
  column : Nat
  deriving Repr, DecidableEq

namespace Mappings

/-- The segments of a generated line, counted from one. -/
def segments (m : Mappings) (line : Nat) : List Segment :=
  if line = 0 then [] else m.lines[line - 1]?.getD []

/-- The segments of a generated line that come from a source, with their columns. -/
def sourced (m : Mappings) (line : Nat) : List (Nat × SegmentOrigin) :=
  (m.segments line).filterMap fun s => s.source.map (s.column, ·)

/-- The segment that a column belongs to: the last that begins at or before it. Where there is none,
or no column is asked for, the first segment of the line. -/
def segmentAt? (m : Mappings) (line : Nat) (column : Option Nat) : Option SegmentOrigin :=
  let sourced := m.sourced line
  let before := column.bind fun c => (sourced.filter (·.1 ≤ c)).getLast?
  (before <|> sourced.head?).map (·.2)

/-- The place that a generated line and column come from. The last line of 32 bits has none behind
it to count from one. -/
def placeOf? (m : Mappings) (line : Nat) (column : Option Nat) : Option SourcePlace :=
  match m.segmentAt? line column with
  | some s => if s.line < maxWord32 then some ⟨s.source, s.line + 1, s.column⟩ else none
  | none => none

end Mappings

end AppBundle
