import AppBundle.Digest.Sha256
import AppBundle.Generated.Json
import AppBundle.SourceMap.Basic

/-!
# Cached bundles

What is kept of a bundle: everything that makes it up again, and how to tell whether it is still
right, the digest of the app file and the version of the toolchain that made it.
-/

namespace AppBundle

open AppBundle.Json

/-- A cached bundle. -/
structure CachedBundle where
  /-- The digest of the text of the app file. -/
  contentDigest : String
  /-- The code of the bundle. -/
  code : String
  /-- Where the lines of the entry come from. -/
  lineTable : LineTable
  /-- The finished template. -/
  template : String
  /-- The version of the toolchain that made the bundle. -/
  toolchainVersion : String
  /-- When the bundle was made, in milliseconds since the start of 1970. -/
  timestamp : Int
  /-- The source map of the bundle. -/
  sourceMap : Option SourceMap
  /-- Where the lines of the modules come from. -/
  origins : List ModuleOrigin

namespace CachedBundle

/-- The members of a cached bundle; those that are optional are left out if there is nothing to
say. -/
def members (e : CachedBundle) (timestamp : List (String × Value)) : List (String × Value) :=
  [("contentHash", .string e.contentDigest), ("bundledCode", .string e.code),
    ("lineMap", e.lineTable.toJson), ("template", .string e.template),
    ("toolchainVersion", .string e.toolchainVersion)]
    ++ timestamp
    ++ SourceMap.optionalMember "sourceMap" SourceMap.toJson e.sourceMap
    ++ (if e.origins.isEmpty then [] else [("scriptMeta", .list ModuleOrigin.toJson e.origins)])

/-- A cached bundle as JSON. -/
def toJson (e : CachedBundle) : Value :=
  .object (e.members [("timestamp", .int e.timestamp)])

/-- Reads a cached bundle. -/
def decoder : Decoder CachedBundle :=
  Shape.record "struct CacheEntry" <|
    ((Shape.required "contentHash" .string).and <|
      (Shape.required "bundledCode" .string).and <|
      (Shape.required "lineMap" LineTable.decoder).and <|
      (Shape.required "template" .string).and <|
      (Shape.required "toolchainVersion" .string).and <|
      (Shape.required "timestamp" .signed64).and <|
      (Shape.withDefault "sourceMap" none (.optional SourceMap.decoder)).and <|
      Shape.withDefault "scriptMeta" [] (.list ModuleOrigin.decoder)).map
    fun (digest, code, lineTable, template, version, timestamp, sourceMap, origins) =>
      ⟨digest, code, lineTable, template, version, timestamp, sourceMap, origins⟩

/-- Reads only when a bundle was made. -/
def timestampDecoder : Decoder Int :=
  Shape.record "struct EntryTimestamp" (Shape.required "timestamp" .signed64)

/-- The stand-in for bytes that are no text. -/
def standIn : Char := '\uFFFF'

/-- Whether the name of a member holds bytes that are no text. -/
def hasBrokenName : Draft → Bool
  | .object members _ => members.any fun (name, _) =>
    match name with
    | .ok s => s.toList.contains standIn
    | .error _ => true
  | _ => false

/-- When the bundle in a file was made. Bytes that are no text do no harm inside values that are
passed over. -/
def timestampOf? (bytes : List UInt8) : Option Int :=
  match Text.decode? bytes with
  | some s => (timestampDecoder.readText s).toOption
  | none =>
    let (draft, complete) := Json.readText (Text.decodeWith standIn bytes)
    if hasBrokenName draft || !complete then none
    else (timestampDecoder .text draft).toOption

end CachedBundle

end AppBundle
