import AppBundle.Proofs.Cache.Calls

/-!
# One bundle at a time

Keeping a bundle for an app file leaves what the cache answers for all app files with other keys
(`Cache.find_save_other`), as long as making the folder of the cache does not open another way to
their files. App files with one key share a file: the one that is kept takes the place of the other,
which is missing from then on (`Cache.find_save_sharing`).
-/

namespace AppBundle

open Disk

namespace Cache

variable (c : Cache) {d d' : Disk} {sourceId content sourceId' content' version name : String}
  {e : CachedBundle}

/-- Making the folder of the cache opens no way to a file: the folder is there, or its path goes
down only, on a disk on which everything stands in a folder. -/
def Steady (d : Disk) : Prop :=
  d.Reaches c.folder ∨ d.Grounded ∧ c.folder.Descends

/-! ## Reading other files -/

/-- A file in a folder that stays is read as before if it stays the same. -/
theorem readBytes_of_same (hreaches : d.Reaches c.folder) (hname : Path.IsName name)
    (hshort : name.utf8ByteSize ≤ Path.nameLimit)
    (hfolders : ∀ q, d.get? q = some .folder → d'.get? q = some .folder)
    (hsame : d'.get? (c.place ++ [name]) = d.get? (c.place ++ [name])) :
    (d'.run (readBytes (c.file name))).1 = (d.run (readBytes (c.file name))).1 := by
  refine readBytes_congr ?_ ?_
  · rw [file, (hreaches.mono hfolders).place_child hname hshort, hreaches.place_child hname hshort]
  · rw [file, Path.target_child [] _ hname]
    exact hsame

/-- Files of the cache are read as before when folders are made on the way to them. -/
theorem readBytes_founded (h : c.Steady d) (hfounds : FoundsAt (· ∈ Path.way [] c.folder) d d')
    (hname : Path.IsName name) (hshort : name.utf8ByteSize ≤ Path.nameLimit) :
    (d'.run (readBytes (c.file name))).1 = (d.run (readBytes (c.file name))).1 := by
  rcases h with hreaches | ⟨hgrounded, hdescends⟩
  · exact c.readBytes_of_same hreaches hname hshort (fun _ => hfounds.stays)
      (hreaches.get?_of_foundsAt hfounds _)
  · refine readBytes_founds hgrounded (hfounds.founds hdescends)
      (Path.descends_child hdescends hname hshort) fun hfront => ?_
    have hlength := hfront.length_le
    rw [file, Path.target_child [] _ hname, List.length_append, List.length_singleton] at hlength
    omega

/-- Files are read as before when another one is written by way of a draft. So is that one if it is
not written after all. -/
theorem readBytes_written {draft target : String} {bytes : List UInt8}
    {r : Except DiskFault Unit × Disk} (h : Written (c.file draft) (c.file target) bytes d r)
    (hdraft : Path.IsName draft) (htarget : Path.IsName target) (hname : Path.IsName name)
    (hshort : name.utf8ByteSize ≤ Path.nameLimit) (hne : name ≠ draft)
    (hne' : r.1 = .ok () → name ≠ target) :
    (r.2.run (readBytes (c.file name))).1 = (d.run (readBytes (c.file name))).1 := by
  have hplaces : ∀ {other}, Path.IsName other → name ≠ other →
      c.place ++ [name] ≠ (c.file other).target [] := by
    intro other hother hne heq
    rw [file, Path.target_child [] _ hother] at heq
    exact hne (Path.name_inj heq)
  have hnil : c.place ++ [name] ≠ [] := by simp
  cases h with
  | refused f => rfl
  | stuck f hplace hfree =>
    refine c.readBytes_of_same (reaches_of_child hdraft hplace) hname hshort
      (fun _ => folder_put hfree _) ?_
    rw [get?_put d _ hnil, if_neg (hplaces hdraft hne)]
  | cleared f hplace hfree =>
    refine c.readBytes_of_same (reaches_of_child hdraft hplace) hname hshort
      (fun _ => folder_drop hfree) ?_
    rw [get?_drop d hnil, if_neg (hplaces hdraft hne)]
  | moved hplace hfree _ hfree' =>
    refine c.readBytes_of_same (reaches_of_child hdraft hplace) hname hshort
      (fun _ hfolder => folder_put (mt folder_of_drop hfree') _ (folder_drop hfree hfolder)) ?_
    rw [get?_put _ _ hnil, if_neg (hplaces htarget (hne' rfl)), get?_drop d hnil,
      if_neg (hplaces hdraft hne)]

/-! ## Looking up -/

/-- The answer depends on what can be read of the file only. -/
theorem find_congr (h : (d'.run (readBytes (c.bundlePath sourceId content))).1 =
      (d.run (readBytes (c.bundlePath sourceId content))).1) :
    ((c.find sourceId content version).run d').1 = ((c.find sourceId content version).run d).1 := by
  have hread := readText_congr h
  rw [run_find, run_find]
  rcases hrun : d.run (readText (c.bundlePath sourceId content)) with ⟨r, e⟩
  rcases hrun' : d'.run (readText (c.bundlePath sourceId content)) with ⟨r', e'⟩
  obtain rfl : r' = r := by
    rw [hrun, hrun'] at hread
    exact hread
  rcases r' with f | data
  · cases f <;> rfl
  · dsimp only
    cases CachedBundle.decoder.readText data <;> rfl

/-- Keeping a bundle for an app file leaves what is found for another one, unless both paths and
texts read the same one behind the other. -/
theorem find_save_other (h : c.Steady d)
    (hkey : bundleKey sourceId content = bundleKey sourceId' content' →
      sourceId ++ content = sourceId' ++ content')
    (hother : sourceId ++ content ≠ sourceId' ++ content') :
    ((c.find sourceId' content' version).run ((c.save sourceId content e).run d).2).1 =
      ((c.find sourceId' content' version).run d).1 := by
  have hname := isName_bundleName sourceId' content'
  have hshort := utf8ByteSize_bundleName_le sourceId' content'
  have hne : bundleName sourceId' content' ≠ bundleName sourceId content := fun heq =>
    hother (hkey ((String.append_left_inj ".json").mp heq).symm)
  have hdraft : bundleName sourceId' content' ≠
      bundleName sourceId content ++ "." ++ decimal c.process ++ ".tmp" :=
    append_ne_append (x := 'n') (y := 'p') (by decide) (by decide) (by decide) _ _
  refine c.find_congr ?_
  rw [disk_save]
  exact (c.readBytes_written (c.written_writeBundle sourceId content d e)
    (Path.isName_append _ (by decide)) (isName_bundleName sourceId content) hname hshort hdraft
    fun _ => hne).trans (c.readBytes_founded h (foundsAt_makeFolders c.folder d) hname hshort)

/-- Of two app files whose paths and texts read the same one behind the other, the one that is kept
takes the place of the other. -/
theorem find_save_sharing (hfits : e.Fits) (hdigest : e.contentDigest = contentDigest content)
    (hshared : sourceId ++ content = sourceId' ++ content')
    (hcontent : contentDigest content ≠ contentDigest content') {file : String}
    (hsaved : ((c.save sourceId content e).run d).1 = .saved file) :
    ((c.find sourceId' content' version).run ((c.save sourceId content e).run d).2).1 =
      .miss .textChanged := by
  have hwritten := (c.save_eq_saved sourceId content).mp (Prod.ext hsaved rfl)
  have hname : bundleName sourceId' content' = bundleName sourceId content := by
    rw [bundleName, bundleName, bundleKey, bundleKey, hshared]
  rw [c.find_of_sharing sourceId content version hfits hwritten.1 hname]
  simp [validate, hdigest, hcontent]

/-- A file that cannot be read is a miss. -/
theorem find_of_fault {f : DiskFault}
    (h : (d.run (readText (c.bundlePath sourceId content))).1 = .error f) :
    ((c.find sourceId content version).run d).1 =
      .miss (if f = .notFound then .absent else .unreadable f.message) := by
  rw [run_find]
  rcases hrun : d.run (readText (c.bundlePath sourceId content)) with ⟨r, e⟩
  obtain rfl : r = .error f := by
    rw [hrun] at h
    exact h
  cases f <;> rfl

end Cache

/-! ## Other app files, and the same file -/

/-- The bundle of yet another app file. -/
def otherName : KeptBundle :=
  smallBundle "other" "x" "3"

/-- A bundle that is kept for another app file leaves the first one where it is. -/
theorem find_longName_of_other :
    shelf.Steady (shelve longName bareShelf) ∧ "other" ++ "x" ≠ "app" ++ "s" ∧
      ((shelf.find "app" "s" "1").run
        ((shelf.save "other" "x" otherName.entry).run (shelve longName bareShelf)).2).1 =
          .hit longName.entry := by
  have hsteady : shelf.Steady (shelve longName bareShelf) :=
    .inr ⟨by decide +kernel, by decide +kernel⟩
  have hother : "other" ++ "x" ≠ "app" ++ "s" := by decide
  have hkey : bundleKey "other" "x" = bundleKey "app" "s" → "other" ++ "x" = "app" ++ "s" := by
    decide +kernel
  refine ⟨hsteady, hother, ?_⟩
  rw [shelf.find_save_other hsteady hkey hother]
  exact find_longName

/-- A cache whose folder is reached through one that is not there. -/
def detour : Cache :=
  ⟨["new", "..", "old"], 1⟩

/-- A disk with a file where the folder of the cache should be. -/
def blockedDisk : Disk :=
  ⟨[(["old"], .file [])]⟩

/-- A cache whose folder has too long a name. -/
def longShelf : Cache :=
  ⟨["new", String.ofList (List.replicate 256 'n')], 1⟩

/-- A bundle of another app file makes a difference if the two share a key. It also makes one if the
folder of the cache is not there and making it opens the way to another fault. -/
theorem shelf_not_isolated :
    (("app", "s") ≠ ("ap", "ps") ∧
      ((shelf.find "app" "s" "1").run (shelve longName bareShelf)).1 = .hit longName.entry ∧
      ((shelf.find "app" "s" "1").run
        ((shelf.save "ap" "ps" shortName.entry).run (shelve longName bareShelf)).2).1 =
          .miss .textChanged) ∧
    (((detour.find "app" "s" "1").run blockedDisk).1 = .miss .absent ∧
      ((detour.find "app" "s" "1").run
        ((detour.save "other" "x" otherName.entry).run blockedDisk).2).1 =
          .miss (.unreadable "Not a directory (os error 20)")) ∧
    (((longShelf.find "app" "s" "1").run .empty).1 = .miss .absent ∧
      ((longShelf.find "app" "s" "1").run
        ((longShelf.save "other" "x" otherName.entry).run .empty).2).1 =
          .miss (.unreadable "File name too long (os error 36)")) := by
  have hcontent : contentDigest "ps" ≠ contentDigest "s" := by decide +kernel
  refine ⟨⟨by decide, find_longName, ?_⟩, ⟨?_, ?_⟩, ?_, ?_⟩
  · exact shelf.find_save_sharing (fits_smallBundle "ap" "ps" "2")
      (contentDigest_smallBundle "ap" "ps" "2") (by decide) hcontent save_shortName
  · exact detour.find_of_fault (f := .notFound) (by decide +kernel)
  · exact detour.find_of_fault (f := .notFolder) (by decide +kernel)
  · exact longShelf.find_of_fault (f := .notFound) (by decide +kernel)
  · exact longShelf.find_of_fault (f := .tooLong) (by decide +kernel)

end AppBundle
