import AppBundle.Generated.Basic
import AppBundle.LineTable.Json

/-!
# Generated code as JSON
-/

namespace AppBundle

open AppBundle.Json

/-- A module as JSON. -/
def Module.toJson (m : Module) : Value :=
  .object [
    ("filename", .string m.file), ("content", .string m.content),
    ("originalLine", .nat m.line), ("sourceId", .string m.owner)]

namespace ModuleOrigin

/-- Where the lines of a module come from, as JSON. -/
def toJson (m : ModuleOrigin) : Value :=
  .object [
    ("filename", .string m.file), ("originalLine", .nat m.line),
    ("headerLines", .nat m.headerSize)]

/-- Reads where the lines of a module come from. -/
def decoder : Decoder ModuleOrigin :=
  Shape.record "struct ScriptMeta" <|
    ((Shape.required "filename" .string).and <|
      (Shape.required "originalLine" .word32).and <|
      Shape.required "headerLines" .word32).map
    fun (file, line, headerSize) => ⟨file, line, headerSize⟩

end ModuleOrigin

/-- All that is generated for an app, as JSON. -/
def Generated.toJson (g : Generated) : Value :=
  .object [
    ("entry", .string g.entry), ("modules", .list Module.toJson g.modules),
    ("lineMap", g.lineTable.toJson), ("scriptMeta", .list ModuleOrigin.toJson g.origins),
    ("originalContent", .string g.content), ("sourceId", .string g.sourceId),
    ("diagnostics", .list Diagnostic.toJson g.diagnostics)]

end AppBundle
