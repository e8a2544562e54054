import AppBundle.Json.Shape
import AppBundle.SourceMap.Mappings
import AppBundle.Text.Blank

/-!
# Source maps

A source map of version 3: the mappings of a generated text, with the names of the sources that they
point into.
-/

namespace AppBundle

open AppBundle.Json

/-- A source map. -/
structure SourceMap where
  /-- The version of the format. -/
  version : Nat
  /-- The generated file. -/
  file : Option String
  /-- What stands before the name of every source. -/
  sourceRoot : Option String
  /-- The names of the sources. -/
  sources : List String
  /-- The names that segments refer to. -/
  names : List String
  /-- The mappings as text. -/
  mappings : String
  /-- The texts of the sources. -/
  sourcesContent : Option (List (Option String))
  deriving Repr, DecidableEq

namespace SourceMap

/-- The name of a source behind the root of all sources. -/
def source? (m : SourceMap) (index : Nat) : Option String :=
  m.sources[index]?.map fun source =>
    match m.sourceRoot with
    | some root =>
      if root.isEmpty then source
      else String.ofList (Text.trimRight (· = '/') root.toList) ++ "/" ++ source
    | none => source

/-- The mappings of a map of version 3. -/
def toMappings (m : SourceMap) : Except MappingFault Mappings :=
  if m.version = 3 then readMappings m.mappings else .error (.version m.version)

/-- A member that is left out if there is nothing to say. -/
def optionalMember {α : Type} (name : String) (f : α → Value) : Option α → List (String × Value)
  | some a => [(name, f a)]
  | none => []

/-- A source map as JSON. -/
def toJson (m : SourceMap) : Value :=
  .object (
    [("version", .nat m.version)]
      ++ optionalMember "file" .string m.file
      ++ optionalMember "sourceRoot" .string m.sourceRoot
      ++ [("sources", .strings m.sources), ("names", .strings m.names),
        ("mappings", .string m.mappings)]
      ++ optionalMember "sourcesContent" (.list (.optional .string)) m.sourcesContent)

/-- Reads a source map. -/
def decoder : Decoder SourceMap :=
  Shape.record "struct SourceMapV3" <|
    ((Shape.required "version" .word32).and <|
      (Shape.withDefault "file" none (.optional .string)).and <|
      (Shape.withDefault "sourceRoot" none (.optional .string)).and <|
      (Shape.required "sources" (.list .string)).and <|
      (Shape.withDefault "names" [] (.list .string)).and <|
      (Shape.required "mappings" .string).and <|
      Shape.withDefault "sourcesContent" none (.optional (.list (.optional .string)))).map
    fun (version, file, sourceRoot, sources, names, mappings, sourcesContent) =>
      ⟨version, file, sourceRoot, sources, names, mappings, sourcesContent⟩

end SourceMap

end AppBundle
