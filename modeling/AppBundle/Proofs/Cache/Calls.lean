import AppBundle.Proofs.Cache.Holds

/-!
# The bundle that a hit gives

Caches of one folder are used one call after the other, and nothing else touches the folder
(`CallHistory`). Every file of a bundle then holds the bundle that was kept last under its key
(`CallHistory.lastKept`). App files whose paths and texts read the same one behind the other share a
key, and the last of them has the file; the digest of the text tells them apart, so a hit gives the
bundle that was kept last for the very app file (`CallHistory.find_latest`).
-/

namespace AppBundle

open Disk

/-! ## Histories of calls -/

/-- A bundle that was kept for an app file. -/
structure KeptBundle where
  /-- The path or URL of the app file. -/
  sourceId : String
  /-- The text of the app file. -/
  content : String
  /-- The bundle. -/
  entry : CachedBundle

namespace KeptBundle

/-- The key under which the bundle was kept. -/
def key (k : KeptBundle) : String :=
  bundleKey k.sourceId k.content

/-- Whether the bundle was kept for the app file with this path and text. -/
def isFor (k : KeptBundle) (sourceId content : String) : Bool :=
  k.sourceId = sourceId && k.content = content

/-- The bundles that are kept after a call that was to keep one: a call that failed kept none. -/
def addTo (k : KeptBundle) (kept : List KeptBundle) : SaveResult → List KeptBundle
  | .saved _ => k :: kept
  | .failed _ => kept

end KeptBundle

/-- The bundles that calls on caches of one folder have kept, the last one first, and the disk they
leave. The folder holds nothing at first, and what changes the disk between the calls leaves it
alone. -/
inductive CallHistory (place : Place) : List KeptBundle → Disk → Prop
  /-- Nothing stands in the folder. -/
  | empty {d : Disk} (hempty : ∀ name, d.get? (place ++ [name]) = none) : CallHistory place [] d
  /-- A bundle is kept, or cannot be kept. -/
  | save {kept : List KeptBundle} {d : Disk} (c : Cache) (k : KeptBundle)
      (h : CallHistory place kept d) (hplace : c.place = place)
      (hdigest : k.entry.contentDigest = contentDigest k.content) :
      CallHistory place (k.addTo kept ((c.save k.sourceId k.content k.entry).run d).1)
        ((c.save k.sourceId k.content k.entry).run d).2
  /-- A bundle is looked up. -/
  | find {kept : List KeptBundle} {d : Disk} (c : Cache) (sourceId content version : String)
      (h : CallHistory place kept d) (hplace : c.place = place) :
      CallHistory place kept ((c.find sourceId content version).run d).2
  /-- All bundles are taken away. -/
  | removeAll {kept : List KeptBundle} {d : Disk} (c : Cache) (h : CallHistory place kept d)
      (hplace : c.place = place) : CallHistory place kept (d.run c.removeAll).2
  /-- Bundles of some age are taken away. -/
  | removeOlder {kept : List KeptBundle} {d : Disk} (c : Cache) (now : Int) (seconds : Nat)
      (h : CallHistory place kept d) (hplace : c.place = place) :
      CallHistory place kept (d.run (c.removeOlder now seconds)).2
  /-- The rest of the disk changes. -/
  | elsewhere {kept : List KeptBundle} {d d' : Disk} (h : CallHistory place kept d)
      (hsame : ∀ name, d'.get? (place ++ [name]) = d.get? (place ++ [name])) :
      CallHistory place kept d'

/-! ## The invariant -/

/-- Every file of a bundle holds the one that was kept last under its key. -/
def LastKept (place : Place) (kept : List KeptBundle) (d : Disk) : Prop :=
  Holds (fun key e => ∃ k, kept.find? (·.key = key) = some k ∧ k.entry = e) place d

section Steps

variable {place : Place} {kept : List KeptBundle} {d d' : Disk}

/-- A call that keeps a bundle puts it in place of the one that had its key. -/
theorem LastKept.save (h : LastKept place kept d) {c : Cache} (hplace : c.place = place)
    (k : KeptBundle) :
    LastKept place (k.addTo kept ((c.save k.sourceId k.content k.entry).run d).1)
      ((c.save k.sourceId k.content k.entry).run d).2 := by
  have hfolders : LastKept place kept (d.run (makeFolders c.folder)).2 :=
    h.noBundle (writes_makeFolders c.folder d)
  have hwritten := c.written_writeBundle k.sourceId k.content d k.entry
  rw [c.run_save]
  generalize d.run (c.writeBundle k.sourceId k.content k.entry) = r at hwritten ⊢
  generalize (d.run (makeFolders c.folder)).2 = d₁ at hfolders hwritten
  cases hwritten with
  | refused f => exact hfolders
  | stuck f => exact hfolders.noBundle (adds_put fun bytes _ => c.noBundle_draft _ _ bytes)
  | cleared f => exact hfolders.noBundle (adds_drop d₁ _)
  | moved hdraftPlace hdraftFree hbundlePlace hbundleFree =>
    have hrest : LastKept place kept (d₁.drop ((c.draftPath k.sourceId k.content).target [])) :=
      hfolders.noBundle (adds_drop d₁ _)
    have hbundle := c.target_bundlePath k.sourceId k.content
    rw [hplace] at hbundle
    intro key bytes e hget he
    rw [get?_put _ _ (ne_nil_of_file hget), hbundle] at hget
    show ∃ k', (k :: kept).find? (·.key = key) = some k' ∧ k'.entry = e
    by_cases hkey : k.key = key
    · -- the file of the key is the one that was written
      subst hkey
      have hname : place ++ [k.key ++ ".json"] = place ++ [bundleName k.sourceId k.content] := rfl
      rw [if_pos hname] at hget
      obtain rfl := Item.file.inj (Option.some.inj hget)
      rw [CachedBundle.ofBytes?_bundleText] at he
      exact ⟨k, List.find?_cons_of_pos (by simp), he.2.symm⟩
    · -- the files of other keys stay
      have hname : place ++ [key ++ ".json"] ≠ place ++ [bundleName k.sourceId k.content] := by
        intro heq
        exact hkey ((String.append_left_inj ".json").mp (Path.name_inj heq)).symm
      rw [if_neg hname] at hget
      obtain ⟨k', hfind, hentry⟩ := hrest key bytes e hget he
      exact ⟨k', by rw [List.find?_cons_of_neg (by simpa using hkey), hfind], hentry⟩

theorem CallHistory.lastKept (h : CallHistory place kept d) : LastKept place kept d := by
  induction h with
  | empty hempty => exact holds_empty hempty
  | save c k _ hplace _ ih => exact ih.save hplace k
  | find c sourceId content version _ _ ih =>
    exact ih.noBundle (c.adds_find sourceId content version _)
  | removeAll c _ _ ih => exact ih.noBundle (c.writes_removeAll _)
  | removeOlder c now seconds _ _ ih => exact ih.noBundle (c.writes_removeOlder now seconds _)
  | elsewhere _ hsame ih =>
    intro key bytes e hget
    rw [hsame] at hget
    exact ih key bytes e hget

/-- All bundles that were kept bear the digests of their texts. -/
theorem CallHistory.contentDigest_entry (h : CallHistory place kept d) :
    ∀ k ∈ kept, k.entry.contentDigest = contentDigest k.content := by
  induction h with
  | empty => simp
  | save c k _ _ hdigest ih =>
    intro k' hk'
    cases hsaved : ((c.save k.sourceId k.content k.entry).run _).1 <;>
      rw [hsaved] at hk'
    · rcases List.mem_cons.mp hk' with rfl | hk'
      · exact hdigest
      · exact ih k' hk'
    · exact ih k' hk'
  | find _ _ _ _ _ _ ih => exact ih
  | removeAll _ _ _ ih => exact ih
  | removeOlder _ _ _ _ _ ih => exact ih
  | elsewhere _ _ ih => exact ih

/-! ## Hits -/

/-- If the bundle that was kept last under the key of an app file was kept for this app file, it is
also the one that was kept last for it. -/
theorem find?_isFor {sourceId content : String} {k : KeptBundle}
    (hfind : kept.find? (·.key = bundleKey sourceId content) = some k)
    (hk : k.isFor sourceId content = true) :
    kept.find? (·.isFor sourceId content) = some k := by
  obtain ⟨-, before, after, rfl, hbefore⟩ := List.find?_eq_some_iff_append.mp hfind
  refine List.find?_eq_some_iff_append.mpr ⟨hk, before, after, rfl, fun b hb => ?_⟩
  have hother : b.key ≠ bundleKey sourceId content := by simpa using hbefore b hb
  simp only [KeptBundle.isFor, Bool.not_eq_true', Bool.and_eq_false_iff, decide_eq_false_iff_not]
  by_contra hsame
  rw [not_or, not_not, not_not] at hsame
  exact hother (by rw [KeptBundle.key, hsame.1, hsame.2])

/-- A hit gives the bundle that was kept last for this very app file, and it was made by this
toolchain, if digests tell the app files apart. -/
theorem CallHistory.find_latest (h : CallHistory place kept d) {c : Cache}
    (hplace : c.place = place) {sourceId content version : String}
    (hkey : ∀ k ∈ kept, k.key = bundleKey sourceId content →
      k.sourceId ++ k.content = sourceId ++ content)
    (hdigest : ∀ k ∈ kept, contentDigest k.content = contentDigest content → k.content = content)
    {e : CachedBundle} (hhit : ((c.find sourceId content version).run d).1 = .hit e) :
    kept.find? (·.isFor sourceId content) = some ⟨sourceId, content, e⟩ ∧
      e.toolchainVersion = version := by
  have hholds := h.lastKept
  rw [← hplace] at hholds
  obtain ⟨⟨k, hfind, rfl⟩, hcontent, hversion⟩ :=
    c.find_of_holds sourceId content hholds hhit
  have hmem : k ∈ kept := List.mem_of_find?_eq_some hfind
  have hsame : k.content = content :=
    hdigest k hmem ((h.contentDigest_entry k hmem).symm.trans hcontent)
  have hboth : k.sourceId ++ k.content = sourceId ++ content :=
    hkey k hmem (by simpa using List.find?_some hfind)
  have hid : k.sourceId = sourceId := by
    rw [hsame] at hboth
    exact (String.append_left_inj content).mp hboth
  obtain ⟨sourceId', content', e⟩ := k
  obtain rfl : sourceId' = sourceId := hid
  obtain rfl : content' = content := hsame
  exact ⟨find?_isFor hfind (by simp [KeptBundle.isFor]), hversion⟩

end Steps

/-! ## Two app files with one key -/

/-- A bundle of little code for an app file. -/
def smallBundle (sourceId content code : String) : KeptBundle :=
  ⟨sourceId, content, ⟨contentDigest content, code, .empty, "", "1", 0, none, []⟩⟩

/-- A cache. -/
def shelf : Cache :=
  ⟨["cache"], 1⟩

/-- The disk with a bundle kept in the cache. -/
def shelve (k : KeptBundle) (d : Disk) : Disk :=
  ((shelf.save k.sourceId k.content k.entry).run d).2

/-- A bundle that was kept is found. -/
theorem find_shelve {k : KeptBundle} {d : Disk} {file : String} (hfits : k.entry.Fits)
    (hdigest : k.entry.contentDigest = contentDigest k.content)
    (hsaved : ((shelf.save k.sourceId k.content k.entry).run d).1 = .saved file) :
    ((shelf.find k.sourceId k.content k.entry.toolchainVersion).run (shelve k d)).1 =
      .hit k.entry := by
  have hwritten := (shelf.save_eq_saved k.sourceId k.content).mp (Prod.ext hsaved rfl)
  rw [shelve, shelf.find_of_writeBundle _ _ _ hfits hwritten.1]
  exact Cache.validate_same hdigest

/-- An empty cache. -/
def bareShelf : Disk :=
  ⟨[(["cache"], .folder)]⟩

/-- The bundle of an app file. -/
def longName : KeptBundle :=
  smallBundle "app" "s" "1"

/-- The bundle of an app file with the same key. -/
def shortName : KeptBundle :=
  smallBundle "ap" "ps" "2"

theorem fits_smallBundle (sourceId content code : String) :
    (smallBundle sourceId content code).entry.Fits where
  lineTable := by simp [smallBundle, LineTable.Fits, LineTable.empty]
  timestamp := by
    show Json.Number.minSigned64 ≤ 0 ∧ 0 ≤ Json.Number.maxSigned64
    decide
  sourceMap := by simp [smallBundle]
  origins := by simp [smallBundle]

theorem contentDigest_smallBundle (sourceId content code : String) :
    (smallBundle sourceId content code).entry.contentDigest = contentDigest content := rfl

theorem save_longName :
    ((shelf.save longName.sourceId longName.content longName.entry).run bareShelf).1 =
      .saved (bundleName "app" "s") := by
  decide +kernel

theorem save_shortName :
    ((shelf.save shortName.sourceId shortName.content shortName.entry).run
      (shelve longName bareShelf)).1 = .saved (bundleName "ap" "ps") := by
  decide +kernel

theorem history_shelf :
    CallHistory ["cache"] [shortName, longName] (shelve shortName (shelve longName bareShelf)) := by
  have hempty : ∀ name, bareShelf.get? (["cache"] ++ [name]) = none := by simp [bareShelf, get?]
  have hplace : shelf.place = ["cache"] := by decide
  have hfirst : CallHistory ["cache"] [longName] (shelve longName bareShelf) := by
    have h := CallHistory.save shelf longName (.empty hempty) hplace rfl
    rwa [save_longName] at h
  have h := CallHistory.save shelf shortName hfirst hplace rfl
  rwa [save_shortName] at h

theorem find_longName :
    ((shelf.find "app" "s" "1").run (shelve longName bareShelf)).1 = .hit longName.entry :=
  find_shelve (k := longName) (fits_smallBundle "app" "s" "1")
    (contentDigest_smallBundle "app" "s" "1") save_longName

theorem find_shortName :
    ((shelf.find "ap" "ps" "1").run (shelve shortName (shelve longName bareShelf))).1 =
      .hit shortName.entry :=
  find_shelve (k := shortName) (fits_smallBundle "ap" "ps" "2")
    (contentDigest_smallBundle "ap" "ps" "2") save_shortName

/-- The second of two app files with one key has the file, and a hit gives its bundle. -/
theorem shortName_latest :
    longName.key = bundleKey "ap" "ps" ∧
      ((shelf.find "ap" "ps" "1").run (shelve shortName (shelve longName bareShelf))).1 =
        .hit shortName.entry ∧
      [shortName, longName].find? (·.isFor "ap" "ps") = some shortName ∧
      shortName.entry.toolchainVersion = "1" := by
  have hplace : shelf.place = ["cache"] := by decide
  have hshared : longName.key = bundleKey "ap" "ps" :=
    congrArg sha256 (show "app" ++ "s" = "ap" ++ "ps" by decide)
  have hkeys : ∀ k ∈ [shortName, longName], k.key = bundleKey "ap" "ps" →
      k.sourceId ++ k.content = "ap" ++ "ps" := by decide +kernel
  have hdigests : ∀ k ∈ [shortName, longName], contentDigest k.content = contentDigest "ps" →
      k.content = "ps" := by decide +kernel
  exact ⟨hshared, find_shortName,
    history_shelf.find_latest hplace hkeys hdigests find_shortName⟩

end AppBundle
