import AppBundle.Json.Shape
import AppBundle.LineTable

/-!
# Line maps as JSON

A line table is written as the list of its lines with their origins. Reading takes such pairs in any
order; of several for one line the last counts.
-/

namespace AppBundle

open AppBundle.Json

namespace LineOrigin

/-- An origin as JSON. -/
def toJson (o : LineOrigin) : Value :=
  .object [
    ("originalLine", .nat o.line), ("sourceId", .string o.owner),
    ("description", .string o.description)]

/-- Reads an origin. -/
def decoder : Decoder LineOrigin :=
  Shape.record "struct LineMapping" <|
    ((Shape.required "originalLine" .word32).and <|
      (Shape.required "sourceId" .string).and <|
      Shape.required "description" .string).map
    fun (line, owner, description) => ⟨line, owner, description⟩

end LineOrigin

namespace LineTable

/-- A line with its origin as JSON. -/
def entryToJson (e : Nat × LineOrigin) : Value :=
  .array [.nat e.1, e.2.toJson]

/-- A line table as JSON. -/
def toJson (m : LineTable) : Value :=
  .list entryToJson m.entries

/-- Reads a line table. -/
def decoder : Decoder LineTable :=
  (Decoder.list (Decoder.pair .word32 LineOrigin.decoder)).map ofList

end LineTable

end AppBundle
