import AppBundle.Proofs.Cache.Calls
import AppBundle.Proofs.Disk.Folders

/-!
# A bundle that is kept is found again

A cache is usable for an app file if its folder is there or can be made and nothing stands in the
way of the draft and of the file of the bundle (`Cache.Usable`). Then the bundle is kept, and
whenever a bundle was kept, looking it up gives the same one, for the toolchain that made it
(`Cache.find_saved`).
-/

namespace AppBundle

open Disk Json Text

/-! ## Usable caches -/

namespace Disk

variable {d : Disk} {p : Path}

/-- A file can stand at the path: it is not too long, and no folder stands there. -/
def HasRoom (d : Disk) (p : Path) : Prop :=
  p.text.utf8ByteSize < Path.limit ∧ d.get? (p.target []) ≠ some .folder
  deriving Decidable

theorem Reaches.place_of_hasRoom {name : String} (h : d.Reaches p)
    (hroom : d.HasRoom (p.child name)) (hname : Path.IsName name)
    (hshort : name.utf8ByteSize ≤ Path.nameLimit) :
    d.place (p.child name) = .ok ((p.child name).target []) := by
  rw [h.place_child hname hshort, if_neg (Nat.not_le.mpr hroom.1), Path.target_child [] p hname]

end Disk

namespace Cache

variable (c : Cache) {sourceId content version : String} {d d' : Disk} {e : CachedBundle}

/-- The folder of the cache is there or can be made, and the draft and the file of the bundle can be
written into it. -/
structure Usable (sourceId content : String) (d : Disk) : Prop where
  folder : (d.run (makeFolders c.folder)).1 = .ok ()
  process : c.process ≤ maxWord32
  draft : (d.run (makeFolders c.folder)).2.HasRoom (c.draftPath sourceId content)
  bundle : (d.run (makeFolders c.folder)).2.HasRoom (c.bundlePath sourceId content)

theorem utf8ByteSize_draftName (h : c.process ≤ maxWord32) :
    (bundleName sourceId content ++ "." ++ decimal c.process ++ ".tmp").utf8ByteSize ≤
      Path.nameLimit := by
  have hprocess := utf8ByteSize_decimal h
  have hpoint : ".".utf8ByteSize = 1 := rfl
  have hending : ".tmp".utf8ByteSize = 4 := rfl
  have hlimit : Path.nameLimit = 255 := rfl
  simp only [String.utf8ByteSize_append, utf8ByteSize_bundleName]
  omega

/-- The paths of the draft and of the file lead to their places once the folder is made. -/
theorem Usable.place {c : Cache} (h : c.Usable sourceId content d) :
    (d.run (makeFolders c.folder)).2.place (c.draftPath sourceId content) =
        .ok ((c.draftPath sourceId content).target []) ∧
      (d.run (makeFolders c.folder)).2.place (c.bundlePath sourceId content) =
        .ok ((c.bundlePath sourceId content).target []) := by
  have hreaches : (d.run (makeFolders c.folder)).2.Reaches c.folder :=
    reaches_of_makeFolders (Prod.ext h.folder rfl)
  constructor
  · exact hreaches.place_of_hasRoom h.draft (Path.isName_append _ (by decide))
      (c.utf8ByteSize_draftName h.process)
  · exact hreaches.place_of_hasRoom h.bundle (isName_bundleName sourceId content)
      (utf8ByteSize_bundleName_le sourceId content)

/-- No path in a folder ends in a slash. -/
theorem getLast?_file {name : String} (hname : Path.IsName name) :
    (c.file name).getLast? ≠ some "" := by
  rw [file, Path.child, List.getLast?_concat]
  intro hempty
  rw [Option.some.inj hempty] at hname
  exact absurd hname.1 (by decide)

/-- A file is written by way of a draft if both have room. -/
theorem run_write_moveOrRemove {draft target : Path} (hlast : draft.getLast? ≠ some "")
    (hplace : d.place draft = .ok (draft.target []))
    (hfree : d.get? (draft.target []) ≠ some .folder)
    (hplace' : d.place target = .ok (target.target []))
    (hfree' : d.get? (target.target []) ≠ some .folder) (bytes : List UInt8) :
    (d.run (write draft bytes >>= fun _ => moveOrRemove draft target)).1 = .ok () := by
  have hwritten := get?_put_self d (.file bytes) (ne_nil_of_get? hfree)
  have hstill : (d.put (draft.target []) (.file bytes)).get? (target.target []) ≠ some .folder :=
    fun h => hfree' (folder_of_put_file h)
  unfold moveOrRemove
  rw [run_bind, run_write hlast hplace hfree]
  dsimp only
  rw [run_caught_bind, run_rename (place_put hplace hfree _) hwritten (place_put hplace' hfree _)
    hstill]
  rfl

/-- A bundle is kept in a usable cache. -/
theorem Usable.save {c : Cache} (h : c.Usable sourceId content d) (e : CachedBundle) :
    ∃ d', (c.save sourceId content e).run d = (.saved (bundleName sourceId content), d') := by
  obtain ⟨hplace, hplace'⟩ := h.place
  have hwritten := run_write_moveOrRemove (c.getLast?_file (Path.isName_append _ (by decide)))
    hplace h.draft.2 hplace' h.bundle.2 (encode (bundleText e).toList)
  have hrun : (d.run (c.writeBundle sourceId content e)).1 = .ok () := by
    have hfolder := h.folder
    unfold writeBundle
    rw [run_bind]
    generalize d.run (makeFolders c.folder) = r at hfolder hwritten ⊢
    obtain ⟨r, d₁⟩ := r
    obtain rfl : r = .ok () := hfolder
    exact hwritten
  rw [run_save]
  generalize d.run (c.writeBundle sourceId content e) = r at hrun ⊢
  obtain ⟨r, d'⟩ := r
  obtain rfl : r = .ok () := hrun
  exact ⟨d', rfl⟩

/-! ## Looking up what was kept -/

/-- A bundle of this text is kept in a usable cache, and whenever it was kept, its text stands in
the file and looking it up gives it back, unless it is looked up for another toolchain. The line
table is written in the order of the lines, each with the origin that the table has for it; what is
read from the text of pairs has for every line the origin of its last pair. -/
theorem find_saved (c : Cache) (sourceId : String) {content : String} {e : CachedBundle}
    (hfits : e.Fits) (hdigest : e.contentDigest = contentDigest content) :
    (∀ d, c.Usable sourceId content d →
      ∃ d', (c.save sourceId content e).run d = (.saved (bundleName sourceId content), d')) ∧
    (∀ d d' file, (c.save sourceId content e).run d = (.saved file, d') →
      d'.get? (c.place ++ [file]) = some (.file (encode (bundleText e).toList)) ∧
      (c.find sourceId content e.toolchainVersion).run d' = (.hit e, d') ∧
      ∀ version, version ≠ e.toolchainVersion →
        (c.find sourceId content version).run d' =
          (.miss (.versionChanged e.toolchainVersion version), d')) ∧
    (∃ members pairs, bundleText e = (Value.object members).compact ∧
      ("lineMap", .list LineTable.entryToJson pairs) ∈ members ∧
      pairs.Pairwise (·.1 < ·.1) ∧ ∀ n o, (n, o) ∈ pairs ↔ e.lineTable.get? n = some o) ∧
    (∀ pairs : List (Nat × LineOrigin), (∀ p ∈ pairs, p.1 ≤ maxWord32 ∧ p.2.Fits) →
      LineTable.pairDecoder.readText (Value.list LineTable.entryToJson pairs).compact =
        .ok pairs) ∧
    ∀ s pairs, LineTable.pairDecoder.readText s = .ok pairs →
      ∃ m, LineTable.decoder.readText s = .ok m ∧
        ∀ n, m.get? n = (pairs.reverse.find? (·.1 = n)).map (·.2) := by
  refine ⟨fun d h => h.save e, fun d d' file hsaved => ?_, ?_, fun pairs hpairs => ?_,
    fun s pairs hpairs => ⟨.ofList pairs, ?_, LineTable.get?_ofList pairs⟩⟩
  · obtain ⟨hwritten, rfl⟩ := (c.save_eq_saved sourceId content).mp hsaved
    refine ⟨?_, ?_, fun version hversion => ?_⟩
    · rw [← c.target_bundlePath]
      exact (c.get?_of_writeBundle sourceId content hwritten).2
    · rw [c.find_of_writeBundle sourceId content _ hfits hwritten, validate_same hdigest]
    · rw [c.find_of_writeBundle sourceId content version hfits hwritten]
      simp [validate, hdigest, hversion.symm]
  · refine ⟨e.members [("timestamp", .int e.timestamp)], e.lineTable.entries, rfl, ?_,
      e.lineTable.ascending, fun n o => LineTable.get?_eq_some_iff.symm⟩
    simp [CachedBundle.members, LineTable.toJson]
  · exact (LineTable.reads_pairs.readText pairs pairs).mpr ⟨hpairs, rfl⟩
  · rw [LineTable.readText_decoder, hpairs]
    rfl

end Cache

/-! ## A bundle with all its parts -/

/-- A bundle in which nothing is left out. -/
def fullBundle : CachedBundle where
  contentDigest := contentDigest "s"
  code := "say(\"\u00e9\");\n"
  lineTable := .ofList [(9, ⟨4, "go0", "handler"⟩), (2, ⟨1, "init", "script"⟩)]
  template := "<b/>"
  toolchainVersion := "1"
  timestamp := -5
  sourceMap := some ⟨3, some "melker_bundle.js", none, ["a.ts", "b.ts"], [], "AAAA",
    some [none, some "let a"]⟩
  origins := [⟨"a.ts", 1, 2⟩]

theorem fits_fullBundle : fullBundle.Fits where
  lineTable := by decide
  timestamp := by decide
  sourceMap := by decide
  origins := by decide

theorem usable_shelf : shelf.Usable "app" "s" bareShelf where
  folder := by decide +kernel
  process := by decide
  draft := by decide +kernel
  bundle := by decide +kernel

/-- The bundle is kept and found again, and nothing is found for another toolchain. -/
theorem fullBundle_found :
    fullBundle.Fits ∧ fullBundle.contentDigest = contentDigest "s" ∧
      ∃ d, (shelf.save "app" "s" fullBundle).run bareShelf = (.saved (bundleName "app" "s"), d) ∧
        (shelf.find "app" "s" "1").run d = (.hit fullBundle, d) ∧
        (shelf.find "app" "s" "2").run d = (.miss (.versionChanged "1" "2"), d) := by
  have hdigest : fullBundle.contentDigest = contentDigest "s" := rfl
  obtain ⟨hkeep, hfind, -⟩ := shelf.find_saved "app" fits_fullBundle hdigest
  obtain ⟨d, hsaved⟩ := hkeep bareShelf usable_shelf
  obtain ⟨-, hhit, hmiss⟩ := hfind bareShelf d _ hsaved
  have hother : "2" ≠ fullBundle.toolchainVersion := by decide
  exact ⟨fits_fullBundle, hdigest, d, hsaved, hhit, hmiss "2" hother⟩

end AppBundle
