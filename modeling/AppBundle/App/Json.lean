import AppBundle.App.Basic
import AppBundle.Json.Shape

/-!
# Apps as JSON

The form in which a parsed app file is handed over.
-/

namespace AppBundle

open AppBundle.Json

namespace Position

/-- A position is an object of three numbers. -/
def toJson (p : Position) : Value :=
  .object [("line", .nat p.line), ("column", .nat p.column), ("byteOffset", .nat p.offset)]

/-- Reads a position. -/
def decoder : Decoder Position :=
  Shape.record "struct SourcePosition" <|
    ((Shape.required "line" .word32).and <|
      (Shape.required "column" .word32).and <|
      Shape.required "byteOffset" .size).map
    fun (line, column, offset) => ⟨line, column, offset⟩

end Position

namespace Span

/-- A span is an object of its two ends. -/
def toJson (s : Span) : Value :=
  .object [("start", s.start.toJson), ("end", s.stop.toJson)]

/-- Reads a span. -/
def decoder : Decoder Span :=
  Shape.record "struct SourceRange" <|
    ((Shape.required "start" Position.decoder).and <| Shape.required "end" Position.decoder).map
    fun (start, stop) => ⟨start, stop⟩

end Span

namespace Timing

/-- A kind of script is its word. -/
def toJson (k : Timing) : Value :=
  .string k.word

/-- Reads a kind of script. -/
def decoder : Decoder Timing :=
  .choice [("sync", .sync), ("init", .init), ("ready", .ready)]

end Timing

namespace Script

/-- A script as JSON. -/
def toJson (s : Script) : Value :=
  .object [
    ("id", .string s.id), ("kind", s.kind.toJson), ("code", .string s.code),
    ("externalRef", .optional .string s.reference), ("hasAwait", .bool s.awaits),
    ("range", s.span.toJson)]

/-- Reads a script. -/
def decoder : Decoder Script :=
  Shape.record "struct ParsedScript" <|
    ((Shape.required "id" .string).and <|
      (Shape.required "kind" Timing.decoder).and <|
      (Shape.required "code" .string).and <|
      (Shape.withDefault "externalRef" none (.optional .string)).and <|
      (Shape.withDefault "hasAwait" false .bool).and <|
      Shape.required "range" Span.decoder).map
    fun (id, kind, code, reference, awaits, span) => ⟨id, kind, code, reference, awaits, span⟩

end Script

namespace Element

/-- An element as JSON. -/
def toJson (e : Element) : Value :=
  .object [("tag", .string e.tag), ("id", .optional .string e.id), ("line", .nat e.line)]

/-- Reads an element. -/
def decoder : Decoder Element :=
  Shape.record "struct ElementInfo" <|
    ((Shape.required "tag" .string).and <|
      (Shape.withDefault "id" none (.optional .string)).and <|
      Shape.required "line" .word32).map
    fun (tag, id, line) => ⟨tag, id, line⟩

end Element

namespace Handler

/-- A handler as JSON. -/
def toJson (h : Handler) : Value :=
  .object [
    ("id", .string h.id), ("attrName", .string h.attr), ("code", .string h.code),
    ("hasAwait", .bool h.awaits), ("params", .strings h.params),
    ("attrRange", h.attrSpan.toJson), ("codeRange", h.codeSpan.toJson),
    ("element", h.element.toJson)]

/-- Reads a handler. -/
def decoder : Decoder Handler :=
  Shape.record "struct ParsedHandler" <|
    ((Shape.required "id" .string).and <|
      (Shape.required "attrName" .string).and <|
      (Shape.required "code" .string).and <|
      (Shape.withDefault "hasAwait" false .bool).and <|
      (Shape.withDefault "params" [] (.list .string)).and <|
      (Shape.required "attrRange" Span.decoder).and <|
      (Shape.required "codeRange" Span.decoder).and <|
      Shape.required "element" Element.decoder).map
    fun (id, attr, code, awaits, params, attrSpan, codeSpan, element) =>
      ⟨id, attr, code, awaits, params, attrSpan, codeSpan, element⟩

end Handler

namespace App

/-- An app as JSON. -/
def toJson (a : App) : Value :=
  .object [
    ("sourceId", .string a.sourceId), ("content", .string a.content),
    ("template", .string a.template), ("scripts", .list Script.toJson a.scripts),
    ("handlers", .list Handler.toJson a.handlers)]

/-- Reads an app. -/
def decoder : Decoder App :=
  Shape.record "struct ParseResult" <|
    ((Shape.required "sourceId" .string).and <|
      (Shape.required "content" .string).and <|
      (Shape.required "template" .string).and <|
      (Shape.withDefault "scripts" [] (.list Script.decoder)).and <|
      Shape.withDefault "handlers" [] (.list Handler.decoder)).map
    fun (sourceId, content, template, scripts, handlers) =>
      ⟨sourceId, content, template, scripts, handlers⟩

end App

end AppBundle
