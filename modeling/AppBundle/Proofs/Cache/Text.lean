import AppBundle.Cache.Basic
import AppBundle.Proofs.Json.Shape
import AppBundle.Proofs.LineTable

/-!
# Reading a cached bundle back

The text of a cached bundle gives the bundle itself if all numbers in it are within the bounds of
their fields, and nothing otherwise (`CachedBundle.readText_bundleText`). So no bundle is ever read
as another one.
-/

namespace AppBundle

open AppBundle.Json AppBundle.Text

/-! ## Line tables and origins -/

/-- The line is within the bounds of its field. -/
def LineOrigin.Fits (o : LineOrigin) : Prop :=
  o.line ≤ maxWord32
  deriving Decidable

theorem LineOrigin.reads : decoder.Reads toJson Fits := by
  have hrest := (Shape.reads_required "sourceId" Decoder.reads_string).and
    (Shape.reads_required "description" Decoder.reads_string) (by decide)
  have hall := (Shape.reads_required "originalLine" Decoder.reads_word32).and hrest (by decide)
  refine ((hall.map (g := fun p => ⟨p.1, p.2.1, p.2.2⟩)
    (k := fun o : LineOrigin => (o.line, o.owner, o.description)) fun _ => rfl).record _).congr
    (fun _ => rfl) fun o => ?_
  simp [Fits]

/-- All lines are within the bounds of their fields. -/
def LineTable.Fits (m : LineTable) : Prop :=
  ∀ e ∈ m.entries, e.1 ≤ maxWord32 ∧ e.2.Fits
  deriving Decidable

/-- Reads the pairs of a line table as they stand there. -/
def LineTable.pairDecoder : Decoder (List (Nat × LineOrigin)) :=
  .list (.pair .word32 LineOrigin.decoder)

theorem LineTable.reads_pairs : pairDecoder.Reads (.list entryToJson) fun pairs =>
    ∀ e ∈ pairs, e.1 ≤ maxWord32 ∧ e.2.Fits :=
  (Decoder.reads_word32.pair LineOrigin.reads).list

theorem LineTable.reads : decoder.Reads toJson Fits :=
  reads_pairs.map (k := entries) ofList_entries

/-- A table is read from the pairs as they stand there. -/
theorem LineTable.readText_decoder (s : String) :
    decoder.readText s = (pairDecoder.readText s).map ofList := by
  have hdecoder : ∀ draft, decoder .text draft = (pairDecoder .text draft).map ofList := fun _ => rfl
  unfold Decoder.readText
  rcases Json.readText s.toList with ⟨draft, complete⟩
  dsimp only
  rw [hdecoder]
  cases pairDecoder .text draft with
  | error m => rfl
  | ok pairs => cases complete <;> rfl

/-- Both numbers are within the bounds of their fields. -/
def ModuleOrigin.Fits (m : ModuleOrigin) : Prop :=
  m.line ≤ maxWord32 ∧ m.headerSize ≤ maxWord32
  deriving Decidable

theorem ModuleOrigin.reads : decoder.Reads toJson Fits := by
  have hrest := (Shape.reads_required "originalLine" Decoder.reads_word32).and
    (Shape.reads_required "headerLines" Decoder.reads_word32) (by decide)
  have hall := (Shape.reads_required "filename" Decoder.reads_string).and hrest (by decide)
  refine ((hall.map (g := fun p => ⟨p.1, p.2.1, p.2.2⟩)
    (k := fun m : ModuleOrigin => (m.file, m.line, m.headerSize)) fun _ => rfl).record _).congr
    (fun _ => rfl) fun m => ?_
  simp [Fits]

/-! ## Source maps -/

/-- A member that is left out for nothing is read back. -/
theorem SourceMap.reads_optionalMember {α : Type} {d : Decoder α} {f : α → Value} {ok : α → Prop}
    (name : String) (h : d.Reads f ok) (hnull : ∀ a, f a ≠ .null) :
    (Shape.withDefault name none (.optional d)).Reads (optionalMember name f)
      fun o => ∀ a ∈ o, ok a :=
  Shape.reads_withDefault name none (h.optional hnull) (by simp) fun o => by
    cases o with
    | some _ => exact .inl rfl
    | none => exact .inr ⟨rfl, rfl⟩

/-- The version is within the bounds of its field. -/
def SourceMap.Fits (m : SourceMap) : Prop :=
  m.version ≤ maxWord32
  deriving Decidable

theorem SourceMap.reads : decoder.Reads toJson Fits := by
  have hstring := Decoder.reads_string
  have hnull : ∀ s, Value.string s ≠ .null := fun _ => by simp
  have hcontent := reads_optionalMember "sourcesContent" (hstring.optional hnull).list
    (by simp [Value.list])
  have hmappings := (Shape.reads_required "mappings" hstring).and hcontent (by decide)
  have hnames := (Shape.reads_withDefault "names" [] hstring.list (by simp)
    fun _ => .inl rfl).and hmappings (by decide)
  have hsources := (Shape.reads_required "sources" hstring.list).and hnames (by decide)
  have hroot := (reads_optionalMember "sourceRoot" hstring hnull).and hsources (by decide)
  have hfile := (reads_optionalMember "file" hstring hnull).and hroot (by decide)
  have hall := (Shape.reads_required "version" Decoder.reads_word32).and hfile (by decide)
  refine ((hall.map
    (g := fun p => ⟨p.1, p.2.1, p.2.2.1, p.2.2.2.1, p.2.2.2.2.1, p.2.2.2.2.2.1, p.2.2.2.2.2.2⟩)
    (k := fun m : SourceMap => (m.version, m.file, m.sourceRoot, m.sources, m.names, m.mappings,
      m.sourcesContent)) fun _ => rfl).record _).congr (fun m => ?_) fun m => ?_
  · simp [toJson, Value.strings]
  · simp [Fits]

/-! ## Bundles -/

namespace CachedBundle

/-- All numbers are within the bounds of their fields. -/
structure Fits (e : CachedBundle) : Prop where
  lineTable : e.lineTable.Fits
  timestamp : Number.minSigned64 ≤ e.timestamp ∧ e.timestamp ≤ Number.maxSigned64
  sourceMap : ∀ m ∈ e.sourceMap, m.Fits
  origins : ∀ o ∈ e.origins, o.Fits

theorem reads : decoder.Reads toJson Fits := by
  have hstring := Decoder.reads_string
  have horigins : (Shape.withDefault "scriptMeta" [] (.list ModuleOrigin.decoder)).Reads
      (fun os => if os.isEmpty then [] else [("scriptMeta", .list ModuleOrigin.toJson os)])
      fun os => ∀ o ∈ os, o.Fits :=
    Shape.reads_withDefault "scriptMeta" [] ModuleOrigin.reads.list (by simp)
      fun os => by cases os <;> simp
  -- the members from the last to the first, each in front of those behind it
  have hmap := (SourceMap.reads_optionalMember "sourceMap" SourceMap.reads
    (by simp [SourceMap.toJson])).and horigins (by decide)
  have htime := (Shape.reads_required "timestamp" Decoder.reads_signed64).and hmap (by decide)
  have hversion := (Shape.reads_required "toolchainVersion" hstring).and htime (by decide)
  have htemplate := (Shape.reads_required "template" hstring).and hversion (by decide)
  have hlines := (Shape.reads_required "lineMap" LineTable.reads).and htemplate (by decide)
  have hcode := (Shape.reads_required "bundledCode" hstring).and hlines (by decide)
  have hall := (Shape.reads_required "contentHash" hstring).and hcode (by decide)
  refine ((hall.map
    (g := fun p => ⟨p.1, p.2.1, p.2.2.1, p.2.2.2.1, p.2.2.2.2.1, p.2.2.2.2.2.1, p.2.2.2.2.2.2.1,
      p.2.2.2.2.2.2.2⟩)
    (k := fun e : CachedBundle => (e.contentDigest, e.code, e.lineTable, e.template,
      e.toolchainVersion, e.timestamp, e.sourceMap, e.origins)) fun _ => rfl).record _).congr
    (fun e => ?_) fun e => ?_
  · simp [toJson, members]
  · constructor
    · intro h
      exact ⟨trivial, trivial, h.lineTable, trivial, trivial, h.timestamp, h.sourceMap, h.origins⟩
    · rintro ⟨-, -, hlines, -, -, htime, hmap, horigins⟩
      exact ⟨hlines, htime, hmap, horigins⟩

/-- The text of a bundle gives the bundle if its numbers are within bounds, and nothing else. -/
theorem readText_bundleText (e e' : CachedBundle) :
    decoder.readText (Cache.bundleText e) = .ok e' ↔ e.Fits ∧ e' = e :=
  reads.readText e e'

end CachedBundle

end AppBundle
