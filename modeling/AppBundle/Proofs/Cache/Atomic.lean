import AppBundle.Proofs.Cache.Isolation
import AppBundle.Proofs.Cache.Spared

/-!
# Keeping a bundle or nothing

Each step of keeping a bundle may break off, on any disk. Either the bundle is in its file then, or
the files of all bundles are as they were, whatever is left of the draft (`Cache.save_atomic`). What
is found for an app file is the same as before in that case, unless the folders that were made open
another way to the files of the cache.
-/

namespace AppBundle

open Disk AppBundle.Text

namespace Cache

variable (c : Cache) (S : Steps) (sourceId content : String) (e : CachedBundle) {d d' : Disk}
  {name : String}

/-! ## Steps that break off -/

/-- Writes a bundle into its file by steps that may break off. -/
def writeBundleBy : OnDisk Unit := do
  S.makeFolders c.folder
  S.writeText (c.draftPath sourceId content) (bundleText e)
  moveOrRemoveBy S (c.draftPath sourceId content) (c.bundlePath sourceId content)

/-- Keeps a bundle of an app file by steps that may break off. -/
def saveBy : StateM Disk SaveResult := do
  match ← attempt (c.writeBundleBy S sourceId content e) with
  | .ok () => return .saved (bundleName sourceId content)
  | .error f => return .failed f

theorem run_saveBy (d : Disk) :
    (c.saveBy S sourceId content e).run d =
      match d.run (c.writeBundleBy S sourceId content e) with
      | (.ok (), d') => (.saved (bundleName sourceId content), d')
      | (.error f, d') => (.failed f, d') := by
  unfold saveBy
  rw [run_attempt_bind]
  rcases d.run (c.writeBundleBy S sourceId content e) with ⟨_ | _, _⟩ <;> rfl

/-- On a disk with the folders of the cache the first bytes of the bundle are written at most. If it
is kept, all of them are. -/
theorem written_writeBundleBy (d : Disk) :
    ∃ bytes, bytes <+: encode (bundleText e).toList ∧
      Written (c.draftPath sourceId content) (c.bundlePath sourceId content) bytes
        (d.run (S.makeFolders c.folder)).2 (d.run (c.writeBundleBy S sourceId content e)) ∧
      ((d.run (c.writeBundleBy S sourceId content e)).1 = .ok () →
        bytes = encode (bundleText e).toList) := by
  unfold writeBundleBy
  rw [run_bind]
  rcases d.run (S.makeFolders c.folder) with ⟨f | ⟨⟨⟩⟩, d₁⟩
  · exact ⟨[], List.nil_prefix, .refused f, nofun⟩
  · dsimp only
    rw [run_bind]
    rcases S.writeText_cases d₁ (c.draftPath sourceId content) (bundleText e) with
      ⟨f, d₂, hrun, hleft⟩ | ⟨hplace, hfree, hrun⟩
    · rw [hrun]
      cases hleft with
      | untouched => exact ⟨[], List.nil_prefix, .refused f, nofun⟩
      | part written hpart hplace hfree => exact ⟨written, hpart, .stuck f hplace hfree, nofun⟩
    · rw [hrun]
      exact ⟨_, List.prefix_rfl, written_moveOrRemoveBy S _ _ hplace hfree, fun _ => rfl⟩

/-- No draft is left if it can be moved or taken away. -/
theorem get?_moveOrRemoveBy {draft target : Path} {bytes : List UInt8}
    (hplace : d.place draft = .ok (draft.target []))
    (hfree : d.get? (draft.target []) ≠ some .folder) (hne : draft.target [] ≠ target.target [])
    (hremove : (d.put (draft.target []) (.file bytes)).run (S.remove draft) =
      (d.put (draft.target []) (.file bytes)).run (Disk.remove draft)) :
    ((d.put (draft.target []) (.file bytes)).run (moveOrRemoveBy S draft target)).2.get?
      (draft.target []) = none := by
  have hnil : draft.target [] ≠ [] := ne_nil_of_get? hfree
  have hwritten := get?_put_self d (.file bytes) hnil
  unfold moveOrRemoveBy
  rw [run_caught_bind]
  rcases S.rename_cases (d.put (draft.target []) (.file bytes)) draft target with
    ⟨f, hno⟩ | ⟨bytes', -, -, -, hrun⟩
  · rw [hno]
    show (Disk.run _ (caught (S.remove draft) >>= _)).2.get? _ = none
    rw [run_caught_bind, hremove, run_remove (place_put hplace hfree _) hwritten]
    show (Disk.drop _ _).get? _ = none
    rw [get?_drop _ hnil, if_pos rfl]
  · rw [hrun]
    show (Disk.put _ _ _).get? _ = none
    rw [get?_put _ _ hnil, if_neg hne, get?_drop _ hnil, if_pos rfl]

/-! ## Drafts -/

/-- The name under which a bundle is written first. -/
def draftName : String :=
  bundleName sourceId content ++ "." ++ decimal c.process ++ ".tmp"

/-- The place at which a bundle is written first. -/
def draftPlace : Place := (c.draftPath sourceId content).target []

theorem isName_draftName : Path.IsName (c.draftName sourceId content) :=
  Path.isName_append _ (by decide)

theorem draftPlace_eq :
    c.draftPlace sourceId content = c.place ++ [c.draftName sourceId content] :=
  Path.target_child [] c.folder (c.isName_draftName sourceId content)

theorem isBundleName_bundleName : isBundleName (bundleName sourceId content) = true := by
  have hends : (bundleName sourceId content).toList =
      (bundleKey sourceId content).toList ++ jsonEnding := String.toList_append
  have hkey : bundleKey sourceId content ≠ "" := by
    intro hempty
    have hsize : (bundleKey sourceId content).utf8ByteSize = 64 := utf8ByteSize_sha256 _
    rw [hempty] at hsize
    exact absurd hsize (by decide)
  have hlength : (bundleKey sourceId content).length ≠ 0 := mt String.length_eq_zero_iff.mp hkey
  rw [isBundleName, Bool.and_eq_true, endsIn, List.isSuffixOf_iff_suffix, hends, bundleName,
    String.length_append]
  refine ⟨List.suffix_append _ _, ?_⟩
  have hjson : jsonEnding.length = 5 ∧ ".json".length = 5 := by decide
  simp only [hjson, decide_eq_true_eq]
  omega

/-- A draft is not named like a bundle. -/
theorem ne_draftName (hname : isBundleName name = true) : name ≠ c.draftName sourceId content := by
  rintro rfl
  rw [isBundleName, Bool.and_eq_true, endsIn, List.isSuffixOf_iff_suffix] at hname
  obtain ⟨front, hfront⟩ := hname.1
  have hlast : (c.draftName sourceId content).toList.getLast? = some 'p' :=
    getLast?_append _ (by decide)
  rw [← hfront, List.getLast?_append] at hlast
  exact absurd (Option.some.inj hlast) (by decide)

theorem ne_draftPlace (hname : name ≠ c.draftName sourceId content) :
    c.place ++ [name] ≠ c.draftPlace sourceId content := by
  rw [draftPlace_eq]
  exact fun heq => hname (Path.name_inj heq)

/-! ## What is left -/

/-- What keeping a bundle comes to if each of its steps may break off. -/
inductive Kept (d : Disk) : SaveResult × Disk → Prop
  /-- The bundle is in its file, the draft is gone, and all other files are as they were. -/
  | saved (d' : Disk)
      (hbundle : d'.fileAt (c.place ++ [bundleName sourceId content]) =
        some (encode (bundleText e).toList))
      (hdraft : d'.get? (c.draftPlace sourceId content) = none)
      (hothers : ∀ q, q ≠ c.place ++ [bundleName sourceId content] →
        q ≠ c.draftPlace sourceId content → d'.fileAt q = d.fileAt q) :
      Kept d (.saved (bundleName sourceId content), d')
  /-- All files but the draft are as they were, so the same is found for every app file, if there is
  no other way to the files of the cache now. In a draft that was written there are the first bytes
  of the bundle at most. It is gone if it could not be moved, unless taking it away breaks off too. -/
  | failed (f : DiskFault) (d' : Disk)
      (hbundles : ∀ name, isBundleName name = true →
        d'.fileAt (c.place ++ [name]) = d.fileAt (c.place ++ [name]))
      (hothers : ∀ q, q ≠ c.draftPlace sourceId content → d'.fileAt q = d.fileAt q)
      (hfinds : c.Steady d → ∀ sourceId' content' version,
        ((c.find sourceId' content' version).run d').1 =
          ((c.find sourceId' content' version).run d).1)
      (hdraft : ∀ bytes, d'.fileAt (c.draftPlace sourceId content) = some bytes →
        d.fileAt (c.draftPlace sourceId content) = some bytes ∨
          bytes <+: encode (bundleText e).toList)
      (hcleared : ∀ d₁ d₂, d.run (S.makeFolders c.folder) = (.ok (), d₁) →
        d₁.run (S.writeText (c.draftPath sourceId content) (bundleText e)) = (.ok (), d₂) →
        d₂.run (S.remove (c.draftPath sourceId content)) =
          d₂.run (Disk.remove (c.draftPath sourceId content)) →
        d'.get? (c.draftPlace sourceId content) = none) :
      Kept d (.failed f, d')

variable {c S sourceId content e}

theorem draft_ne_bundle : (c.draftPath sourceId content).target [] ≠
    (c.bundlePath sourceId content).target [] := by
  rw [target_bundlePath]
  exact (c.ne_draftPlace sourceId content
    (c.ne_draftName sourceId content (isBundleName_bundleName sourceId content))).symm

/-- The draft that was written is gone once it could be moved or taken away. -/
theorem get?_draftPlace {d₁ d₂ : Disk} (hmake : d.run (S.makeFolders c.folder) = (.ok (), d₁))
    (hwrite : d₁.run (S.writeText (c.draftPath sourceId content) (bundleText e)) = (.ok (), d₂))
    (hremove : d₂.run (S.remove (c.draftPath sourceId content)) =
      d₂.run (Disk.remove (c.draftPath sourceId content))) :
    (d.run (c.writeBundleBy S sourceId content e)).2.get? (c.draftPlace sourceId content) =
      none := by
  rcases S.writeText_cases d₁ (c.draftPath sourceId content) (bundleText e) with
    ⟨f, d', hrun, -⟩ | ⟨hplace, hfree, hrun⟩
  · rw [hwrite] at hrun
    exact absurd (Prod.mk.inj hrun).1 (by simp)
  · obtain rfl := (Prod.mk.inj (hwrite.symm.trans hrun)).2
    unfold writeBundleBy
    rw [run_bind, hmake]
    dsimp only
    rw [run_bind, hwrite]
    exact get?_moveOrRemoveBy S hplace hfree draft_ne_bundle hremove

/-- A bundle that is kept changes no file but its own. -/
theorem kept_saved (hfounds : FoundsAt (· ∈ Path.way [] c.folder) d d')
    {r : Except DiskFault Unit × Disk}
    (hwritten : Written (c.draftPath sourceId content) (c.bundlePath sourceId content)
      (encode (bundleText e).toList) d' r) (hok : r.1 = .ok ()) :
    c.Kept S sourceId content e d (.saved (bundleName sourceId content), r.2) := by
  have hframe : Frame
      (FilesAt fun q => q ≠ c.place ++ [bundleName sourceId content] ∧
        q ≠ c.draftPlace sourceId content)
      (FilesAt fun q => q ≠ c.place ++ [bundleName sourceId content] ∧
        q ≠ c.draftPlace sourceId content) d r.2 := by
    have hbundle := c.target_bundlePath sourceId content
    refine hfounds.frame.trans (hwritten.frame ?_ ?_ ?_ ?_)
    · exact fun _ => not_filesAt (fun h => h.2 rfl) _
    · exact fun _ => not_filesAt (fun h => h.2 rfl) _
    · exact fun _ _ => not_filesAt (fun h => h.1 hbundle) _
    · exact fun _ _ => not_filesAt (fun h => h.1 hbundle) _
  refine .saved r.2 ?_ ?_ fun q hbundle hdraft => hframe.fileAt ⟨hbundle, hdraft⟩
  · cases hwritten with
    | moved hplace hfree hplace' hfree' =>
      rw [fileAt_eq_some, ← target_bundlePath]
      exact get?_put_self _ _ (ne_nil_of_get? hfree')
    | _ => exact absurd hok (by simp)
  · cases hwritten with
    | moved hplace hfree hplace' hfree' =>
      show (Disk.put _ _ _).get? ((c.draftPath sourceId content).target []) = none
      have hnil := ne_nil_of_get? hfree
      rw [get?_put _ _ hnil, if_neg draft_ne_bundle, get?_drop _ hnil, if_pos rfl]
    | _ => exact absurd hok (by simp)

/-- What is in the draft of a bundle that is not kept was there before, or it was written. -/
theorem draft_of_failed {bytes left : List UInt8} {f : DiskFault}
    (hfounds : FoundsAt (· ∈ Path.way [] c.folder) d d')
    {r : Except DiskFault Unit × Disk}
    (hwritten : Written (c.draftPath sourceId content) (c.bundlePath sourceId content) left d' r)
    (hfailed : r.1 = .error f) (h : r.2.fileAt (c.draftPlace sourceId content) = some bytes) :
    d.fileAt (c.draftPlace sourceId content) = some bytes ∨ bytes = left := by
  rw [fileAt_eq_some, draftPlace] at h
  cases hwritten with
  | refused g =>
    have hframe : Frame (FilesAt fun _ => True) (FilesAt fun _ => True) d d' := hfounds.frame
    exact .inl ((hframe.fileAt trivial).symm.trans (fileAt_eq_some.mpr h))
  | stuck g _ hfree =>
    rw [get?_put_self _ _ (ne_nil_of_get? hfree)] at h
    exact .inr (Item.file.inj (Option.some.inj h)).symm
  | cleared g _ hfree =>
    rw [get?_drop _ (ne_nil_of_get? hfree), if_pos rfl] at h
    exact absurd h (by simp)
  | moved => exact absurd hfailed (by simp)

/-- A bundle that is not kept changes no file but its draft. -/
theorem kept_failed {f : DiskFault} (hrun : d.run (c.writeBundleBy S sourceId content e) =
      (.error f, d')) :
    c.Kept S sourceId content e d (.failed f, d') := by
  obtain ⟨left, hleft, hwritten, -⟩ := c.written_writeBundleBy S sourceId content e d
  rw [hrun] at hwritten
  have hfounds := S.leads_makeFolders c.folder d
  have hframe : Frame (FilesAt (· ≠ c.draftPlace sourceId content))
      (FilesAt (· ≠ c.draftPlace sourceId content)) d d' :=
    hfounds.frame.trans (hwritten.frame (fun _ => not_filesAt (not_not.mpr rfl) _)
      (fun _ => not_filesAt (not_not.mpr rfl) _) nofun nofun)
  refine .failed f d' (fun name hname => ?_) (fun q hq => hframe.fileAt hq)
    (fun hsteady sourceId' content' version => ?_) (fun bytes hbytes => ?_)
    fun d₁ d₂ hmake hwrite hremove => ?_
  · exact hframe.fileAt (c.ne_draftPlace _ _ (c.ne_draftName _ _ hname))
  · have hname := isName_bundleName sourceId' content'
    have hshort := utf8ByteSize_bundleName_le sourceId' content'
    have hdraft := c.ne_draftName sourceId content (isBundleName_bundleName sourceId' content')
    refine c.find_congr ?_
    exact (c.readBytes_written hwritten (c.isName_draftName sourceId content)
      (isName_bundleName sourceId content) hname hshort hdraft nofun).trans
      (c.readBytes_founded hsteady hfounds hname hshort)
  · refine (draft_of_failed hfounds hwritten rfl hbytes).imp_right fun heq => ?_
    rw [heq]
    exact hleft
  · have hgone := get?_draftPlace hmake hwrite hremove
    rwa [hrun] at hgone

variable (c sourceId content e)

theorem saveBy_plain : c.saveBy .plain sourceId content e = c.save sourceId content e := rfl

/-- A bundle is kept as a whole or not at all, whatever breaks off. -/
theorem save_atomic (d : Disk) :
    c.saveBy .plain sourceId content e = c.save sourceId content e ∧
      ∀ S, c.Kept S sourceId content e d ((c.saveBy S sourceId content e).run d) := by
  refine ⟨c.saveBy_plain sourceId content e, fun S => ?_⟩
  rw [run_saveBy]
  rcases hrun : d.run (c.writeBundleBy S sourceId content e) with ⟨f | ⟨⟨⟩⟩, d'⟩
  · exact kept_failed hrun
  · obtain ⟨left, -, hwritten, hall⟩ := c.written_writeBundleBy S sourceId content e d
    rw [hrun] at hwritten hall
    rw [hall rfl] at hwritten
    exact kept_saved (S.leads_makeFolders c.folder d) hwritten rfl

end Cache

/-! ## Other ways, and drafts that stay -/

/-- A bundle that is not kept makes a difference to what is found if the folders that are made for it
open the way to another fault. Its draft stays if it can neither be moved nor taken away. -/
theorem save_not_atomic :
    (((detour.save "other" "x" otherName.entry).run blockedDisk).1 = .failed .exists ∧
      ((detour.find "app" "s" "1").run blockedDisk).1 = .miss .absent ∧
      ((detour.find "app" "s" "1").run
        ((detour.save "other" "x" otherName.entry).run blockedDisk).2).1 =
          .miss (.unreadable "Not a directory (os error 20)")) ∧
    (((longShelf.save "other" "x" otherName.entry).run .empty).1 = .failed .tooLong ∧
      ((longShelf.find "app" "s" "1").run .empty).1 = .miss .absent ∧
      ((longShelf.find "app" "s" "1").run
        ((longShelf.save "other" "x" otherName.entry).run .empty).2).1 =
          .miss (.unreadable "File name too long (os error 36)")) ∧
    (((shelf.saveBy .stuck "other" "x" otherName.entry).run .empty).1 = .failed .exists ∧
      ((shelf.saveBy .stuck "other" "x" otherName.entry).run .empty).2.get?
        (shelf.draftPlace "other" "x") ≠ none) := by
  refine ⟨⟨by decide +kernel, ?_, ?_⟩, ⟨by decide +kernel, ?_, ?_⟩, ?_, ?_⟩
  · exact detour.find_of_fault (f := .notFound) (by decide +kernel)
  · exact detour.find_of_fault (f := .notFolder) (by decide +kernel)
  · exact longShelf.find_of_fault (f := .notFound) (by decide +kernel)
  · exact longShelf.find_of_fault (f := .tooLong) (by decide +kernel)
  · decide +kernel
  · decide +kernel

end AppBundle
