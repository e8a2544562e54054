import AppBundle.Proofs.Cache.Text
import AppBundle.Proofs.Disk.Steps
import AppBundle.Proofs.Except
import Mathlib.Data.Nat.Digits.Defs
import Mathlib.Tactic.SplitIfs

/-!
# The files of the cache

What the cache reads and writes. A hit is the bundle that stands in the file of an app
(`Cache.find_hit`); keeping a bundle adds no files but that one and the draft of it, and the file
holds the text of the bundle (`Cache.writes_writeBundle`). Looking up adds no file.
-/

namespace AppBundle

open AppBundle.Text

/-! ## Names -/

theorem getLast?_append (name : String) {ending : String} {x : Char}
    (h : ending.toList.getLast? = some x) : (name ++ ending).toList.getLast? = some x := by
  rw [String.toList_append, List.getLast?_append, h, Option.some_or]

/-- Names whose endings have different last characters differ. -/
theorem append_ne_append {ending ending' : String} {x y : Char}
    (h : ending.toList.getLast? = some x) (h' : ending'.toList.getLast? = some y) (hxy : x ≠ y)
    (name name' : String) : name ++ ending ≠ name' ++ ending' := by
  intro heq
  have hlast := getLast?_append name h
  rw [heq, getLast?_append name' h'] at hlast
  exact hxy (Option.some.inj hlast).symm

theorem utf8Size_digitChar {n : Nat} (h : n < 16) : (Nat.digitChar n).utf8Size = 1 := by
  revert n
  decide

/-- Characters of one byte make up as many bytes. -/
theorem utf8ByteSize_ofList {cs : List Char} (h : ∀ c ∈ cs, c.utf8Size = 1) :
    (String.ofList cs).utf8ByteSize = cs.length := by
  rw [← byteLength_toList, String.toList_ofList, byteLength_eq_length h]

/-- A number of 32 bits has ten digits at most. -/
theorem utf8ByteSize_decimal {n : Nat} (h : n ≤ maxWord32) : (decimal n).utf8ByteSize ≤ 10 := by
  have hbyte : ∀ c ∈ numeral n, c.utf8Size = 1 := by
    intro c hc
    have hdigit := Text.isDigit_of_mem_numeral hc
    simp only [Char.isDigit, Bool.and_eq_true, decide_eq_true_eq] at hdigit
    exact Char.utf8Size_eq_one_iff.mpr (UInt32.le_trans hdigit.2 (by decide))
  have hlimit : n < 10 ^ 10 := Nat.lt_of_le_of_lt h (by decide)
  rw [decimal, utf8ByteSize_ofList hbyte]
  exact Nat.toDigits_length 10 n 10 (by decide) hlimit

/-- A digest has 64 digits. -/
theorem utf8ByteSize_sha256 (s : String) : (sha256 s).utf8ByteSize = 64 := by
  unfold sha256 Digest.sha256Bytes
  rw [utf8ByteSize_ofList]
  · rfl
  · intro c hc
    obtain ⟨w, -, hc⟩ := List.mem_flatMap.mp hc
    obtain ⟨shift, -, rfl⟩ := List.mem_map.mp hc
    exact utf8Size_digitChar (Nat.mod_lt _ (by decide))

theorem utf8ByteSize_bundleName (sourceId content : String) :
    (bundleName sourceId content).utf8ByteSize = 69 := by
  rw [bundleName, String.utf8ByteSize_append, bundleKey, utf8ByteSize_sha256]
  rfl

theorem utf8ByteSize_bundleName_le (sourceId content : String) :
    (bundleName sourceId content).utf8ByteSize ≤ Path.nameLimit := by
  rw [utf8ByteSize_bundleName]
  decide

theorem isName_bundleName (sourceId content : String) : Path.IsName (bundleName sourceId content) :=
  Path.isName_append _ (by decide)

/-! ## Bundles in files -/

/-- The bundle that a file with these bytes holds. -/
def CachedBundle.ofBytes? (bytes : List UInt8) : Option CachedBundle :=
  (decode? bytes).bind fun s => (decoder.readText s).toOption

/-- The file of a bundle holds no other bundle. -/
theorem CachedBundle.ofBytes?_bundleText (e e' : CachedBundle) :
    ofBytes? (encode (Cache.bundleText e).toList) = some e' ↔ e.Fits ∧ e' = e := by
  rw [ofBytes?, decode?_encode, Option.bind_some, ← readText_bundleText]
  cases decoder.readText (Cache.bundleText e) <;> simp [Except.toOption]

namespace Cache

open Disk

variable (c : Cache) (sourceId content version : String)

/-- The place where files of the cache stand. -/
def place : Place :=
  c.folder.target []

theorem target_bundlePath :
    (c.bundlePath sourceId content).target [] = c.place ++ [bundleName sourceId content] :=
  Path.target_child [] c.folder (isName_bundleName sourceId content)

theorem target_draftPath : ∃ name,
    (c.draftPath sourceId content).target [] = c.place ++ [name ++ ".tmp"] :=
  ⟨_, Path.target_child [] c.folder (Path.isName_append _ (by decide))⟩

/-! ## Looking up -/

/-- A bundle that was made of this text is right for the toolchain that made it. -/
theorem validate_same {content : String} {e : CachedBundle}
    (hcontent : e.contentDigest = contentDigest content) :
    validate content e.toolchainVersion e = .hit e := by
  simp [validate, hcontent]

/-- The answer to what was read from the file of an app, and the disk it leaves. -/
theorem run_find (d : Disk) :
    (c.find sourceId content version).run d =
      match d.run (readText (c.bundlePath sourceId content)) with
      | (.error .notFound, e) => (.miss .absent, e)
      | (.error f, e) => (.miss (.unreadable f.message), e)
      | (.ok data, e) =>
        match CachedBundle.decoder.readText data with
        | .ok entry => (validate content version entry, e)
        | .error m =>
          (.miss (.corrupt m.message), (e.run (remove (c.bundlePath sourceId content))).2) := by
  unfold find
  rw [run_attempt_bind]
  rcases d.run (readText (c.bundlePath sourceId content)) with ⟨f | data, e⟩
  · cases f <;> rfl
  · cases h : CachedBundle.decoder.readText data <;> simp only [h] <;> rfl

/-- Looking up leaves the disk as it is or takes the file of the app away. -/
theorem find_disk (d : Disk) :
    ((c.find sourceId content version).run d).2 = d ∨
      d.get? (c.place ++ [bundleName sourceId content]) ≠ some .folder ∧
        ((c.find sourceId content version).run d).2 =
          d.drop (c.place ++ [bundleName sourceId content]) := by
  rw [run_find, ← target_bundlePath]
  rcases readText_cases d (c.bundlePath sourceId content) with ⟨f, hno⟩ | ⟨bytes, s, -, -, hrun⟩
  · rw [hno]
    cases f <;> exact .inl rfl
  · rw [hrun]
    cases hread : CachedBundle.decoder.readText s with
    | ok entry => exact .inl (by simp only [hread])
    | error m =>
      simp only [hread]
      rcases remove_cases d (c.bundlePath sourceId content) with ⟨f, hno⟩ | ⟨bytes, hget, hrun⟩
      · exact .inl (by rw [hno])
      · exact .inr ⟨by simp [hget], by rw [hrun]⟩

/-- Looking up adds no file. -/
theorem adds_find {N : Place → List UInt8 → Prop} (d : Disk) :
    Adds N d ((c.find sourceId content version).run d).2 := by
  rcases c.find_disk sourceId content version d with h | ⟨-, h⟩ <;> rw [h]
  · exact .refl d
  · exact adds_drop d _

/-- A hit is the bundle in the file, and it was made of this text by this toolchain. -/
theorem find_hit {d : Disk} {e : CachedBundle}
    (h : ((c.find sourceId content version).run d).1 = .hit e) :
    ∃ bytes, d.get? (c.place ++ [bundleName sourceId content]) = some (.file bytes) ∧
      CachedBundle.ofBytes? bytes = some e ∧ e.contentDigest = contentDigest content ∧
      e.toolchainVersion = version := by
  rw [run_find] at h
  rcases readText_cases d (c.bundlePath sourceId content) with ⟨f, hno⟩ | ⟨bytes, s, hget, hs, hrun⟩
  · rw [hno] at h
    cases f <;> simp at h
  · rw [hrun] at h
    rw [target_bundlePath] at hget
    cases hread : CachedBundle.decoder.readText s with
    | error m => simp [hread] at h
    | ok entry =>
      simp only [hread, validate] at h
      split_ifs at h with hdigest hversion
      obtain rfl := CacheAnswer.hit.inj h
      refine ⟨bytes, hget, ?_, not_not.mp hdigest, not_not.mp hversion⟩
      simp [CachedBundle.ofBytes?, hs, hread, Except.toOption]

/-- A missing file is a miss. -/
theorem find_of_absent {d : Disk}
    (h : d.get? (c.place ++ [bundleName sourceId content]) = none) :
    ∃ m, (c.find sourceId content version).run d = (.miss m, d) := by
  rw [← target_bundlePath] at h
  rw [run_find]
  rcases readText_cases d (c.bundlePath sourceId content) with ⟨f, hno⟩ | ⟨bytes, s, hget, -, -⟩
  · rw [hno]
    cases f <;> exact ⟨_, rfl⟩
  · rw [h] at hget
    exact absurd hget (by simp)

/-! ## Keeping -/

/-- What writing a bundle comes to on the disk on which its folder has been seen to: nothing is
done, the draft stays behind or is taken away, or the file is in its place. -/
inductive Written (draft target : Path) (bytes : List UInt8) (d : Disk) :
    Except DiskFault Unit × Disk → Prop
  /-- There is no folder, or no draft can be written. -/
  | refused (f : DiskFault) : Written draft target bytes d (.error f, d)
  /-- The draft can neither be moved nor taken away. -/
  | stuck (f : DiskFault) (hplace : d.place draft = .ok (draft.target []))
      (hfree : d.get? (draft.target []) ≠ some .folder) :
      Written draft target bytes d (.error f, d.put (draft.target []) (.file bytes))
  /-- The draft cannot be moved. -/
  | cleared (f : DiskFault) (hplace : d.place draft = .ok (draft.target []))
      (hfree : d.get? (draft.target []) ≠ some .folder) :
      Written draft target bytes d (.error f, d.drop (draft.target []))
  /-- The draft is moved to its place. -/
  | moved (hplace : d.place draft = .ok (draft.target []))
      (hfree : d.get? (draft.target []) ≠ some .folder)
      (hplace' : d.place target = .ok (target.target []))
      (hfree' : d.get? (target.target []) ≠ some .folder) :
      Written draft target bytes d
        (.ok (), (d.drop (draft.target [])).put (target.target []) (.file bytes))

/-- A file moved to its place; if that fails, it is taken away. Both may break off. -/
def moveOrRemoveBy (S : Steps) (source target : Path) : OnDisk Unit := do
  match ← caught (S.rename source target) with
  | .ok () => return ()
  | .error f => do
    let _ ← caught (S.remove source)
    throw f

/-- A draft is moved to its place, or taken away, or stays. -/
theorem written_moveOrRemoveBy (S : Steps) {d : Disk} {draft : Path} (target : Path)
    (bytes : List UInt8) (hplace : d.place draft = .ok (draft.target []))
    (hfree : d.get? (draft.target []) ≠ some .folder) :
    Written draft target bytes d
      ((d.put (draft.target []) (.file bytes)).run (moveOrRemoveBy S draft target)) := by
  have hwritten := get?_put_self d (.file bytes) (ne_nil_of_get? hfree)
  unfold moveOrRemoveBy
  rw [run_caught_bind]
  rcases S.rename_cases (d.put (draft.target []) (.file bytes)) draft target with
    ⟨f, hno⟩ | ⟨bytes', hget, hplace', hfree', hrun⟩
  · rw [hno]
    show Written draft target bytes d (Disk.run _ (caught (S.remove draft) >>= _))
    rw [run_caught_bind]
    rcases S.remove_cases (d.put (draft.target []) (.file bytes)) draft with
      ⟨_, hstay⟩ | ⟨_, -, hgone⟩
    · rw [hstay]
      exact .stuck f hplace hfree
    · rw [hgone, drop_put]
      exact .cleared f hplace hfree
  · obtain rfl := Item.file.inj (Option.some.inj (hwritten.symm.trans hget))
    rw [hrun, drop_put]
    refine .moved hplace hfree (place_mono (fun _ => folder_of_put_file) hplace') fun h => hfree' ?_
    exact folder_put hfree _ h

/-- The folder is seen to first; then the bundle is written. -/
theorem written_writeBundle (d : Disk) (e : CachedBundle) :
    Written (c.draftPath sourceId content) (c.bundlePath sourceId content)
      (encode (bundleText e).toList) (d.run (makeFolders c.folder)).2
      (d.run (c.writeBundle sourceId content e)) := by
  unfold writeBundle
  rw [run_bind]
  rcases d.run (makeFolders c.folder) with ⟨f | ⟨⟨⟩⟩, d₁⟩
  · exact .refused f
  · dsimp only
    rw [run_bind]
    rcases write_cases d₁ (c.draftPath sourceId content) (encode (bundleText e).toList) with
      ⟨f, hno⟩ | ⟨hlast, hplace, hfree⟩
    · rw [writeText, hno]
      exact .refused f
    · rw [writeText, run_write hlast hplace hfree]
      exact written_moveOrRemoveBy .plain _ _ hplace hfree

/-- Keeping a bundle adds a draft and the file of the bundle, and the file holds its text. -/
theorem writes_writeBundle (e : CachedBundle) :
    Writes (fun p b => (∃ name, p = c.place ++ [name ++ ".tmp"]) ∨
      p = c.place ++ [bundleName sourceId content] ∧ b = encode (bundleText e).toList)
      (c.writeBundle sourceId content e) := by
  intro d
  obtain ⟨name, hdraft⟩ := c.target_draftPath sourceId content
  have hbundle := c.target_bundlePath sourceId content
  refine (writes_makeFolders c.folder d).trans ?_
  have hwritten := c.written_writeBundle sourceId content d e
  generalize d.run (c.writeBundle sourceId content e) = r at hwritten ⊢
  cases hwritten with
  | refused f => exact .refl _
  | stuck f => exact adds_put fun _ _ => .inl ⟨name, hdraft⟩
  | cleared f => exact adds_drop _ _
  | moved =>
    exact (adds_drop _ _).trans (adds_put fun _ hb => .inr ⟨hbundle, (Item.file.inj hb).symm⟩)

/-- A bundle is kept if its file can be written. -/
theorem run_save (d : Disk) (e : CachedBundle) :
    (c.save sourceId content e).run d =
      match d.run (c.writeBundle sourceId content e) with
      | (.ok (), d') => (.saved (bundleName sourceId content), d')
      | (.error f, d') => (.failed f, d') := by
  unfold save
  rw [run_attempt_bind]
  rcases d.run (c.writeBundle sourceId content e) with ⟨_ | _, _⟩ <;> rfl

theorem save_eq_saved {d d' : Disk} {e : CachedBundle} {file : String} :
    (c.save sourceId content e).run d = (.saved file, d') ↔
      d.run (c.writeBundle sourceId content e) = (.ok (), d') ∧
        file = bundleName sourceId content := by
  rw [run_save]
  rcases d.run (c.writeBundle sourceId content e) with ⟨_ | _, _⟩ <;> grind

theorem disk_save (d : Disk) (e : CachedBundle) :
    ((c.save sourceId content e).run d).2 = (d.run (c.writeBundle sourceId content e)).2 := by
  rw [run_save]
  rcases d.run (c.writeBundle sourceId content e) with ⟨_ | _, _⟩ <;> rfl

/-- A bundle that was kept stands in its file, and the path leads there. -/
theorem get?_of_writeBundle {d d' : Disk} {e : CachedBundle}
    (h : d.run (c.writeBundle sourceId content e) = (.ok (), d')) :
    d'.place (c.bundlePath sourceId content) = .ok ((c.bundlePath sourceId content).target []) ∧
      d'.get? ((c.bundlePath sourceId content).target []) =
        some (.file (encode (bundleText e).toList)) := by
  have hwritten := c.written_writeBundle sourceId content d e
  rw [h] at hwritten
  generalize (d.run (makeFolders c.folder)).2 = d₁ at hwritten
  cases hwritten with
  | moved hplace hfree hplace' hfree' =>
    exact ⟨place_put (place_drop hplace' hfree) (mt folder_of_drop hfree') _,
      get?_put_self _ _ (ne_nil_of_get? hfree')⟩

/-- A bundle that was kept is what is found in its file, whichever app file it is looked up for. -/
theorem find_of_sharing {d d' : Disk} {e : CachedBundle} (he : e.Fits)
    (h : d.run (c.writeBundle sourceId content e) = (.ok (), d')) {sourceId' content' : String}
    (hname : bundleName sourceId' content' = bundleName sourceId content) :
    (c.find sourceId' content' version).run d' = (validate content' version e, d') := by
  obtain ⟨hplace, hget⟩ := c.get?_of_writeBundle sourceId content h
  have hread := (CachedBundle.readText_bundleText e e).mpr ⟨he, rfl⟩
  rw [run_find, bundlePath, hname, ← bundlePath, run_readText hplace hget (decode?_encode _)]
  simp only [hread]

/-- A bundle that was kept is found again, unless the text or the toolchain is another. -/
theorem find_of_writeBundle {d d' : Disk} {e : CachedBundle} (he : e.Fits)
    (h : d.run (c.writeBundle sourceId content e) = (.ok (), d')) :
    (c.find sourceId content version).run d' = (validate content version e, d') :=
  c.find_of_sharing sourceId content version he h rfl

/-! ## Taking away -/

/-- A test of files only reads them. -/
def OnlyReads {α : Type} (op : StateM Disk α) : Prop :=
  ∀ d, (op.run d).2 = d

theorem onlyReads_timestampIn (p : Path) : OnlyReads (timestampIn p) := by
  intro d
  unfold timestampIn
  rw [run_attempt_bind]
  rcases readBytes_cases d p with ⟨f, hno⟩ | ⟨bytes, hplace, hget⟩
  · rw [hno]
    rfl
  · rw [run_readBytes hplace hget]
    rfl

theorem onlyReads_isStale (limit : Int) (p : Path) : OnlyReads (isStale limit p) := by
  intro d
  have hread := onlyReads_timestampIn p d
  unfold isStale
  rw [state_run_bind, hread]
  cases ((timestampIn p).run d).1 <;> rfl

/-- A file is tested first; then it is taken away or left, and the others follow. -/
theorem run_removeWhere_cons {pick : Path → StateM Disk Bool} {d : Disk} {p : Path}
    (hpick : ((pick p).run d).2 = d) (rest : List Path) :
    d.run (removeWhere pick (p :: rest)) =
      d.run (if ((pick p).run d).1 then do
        Disk.remove p
        return (← removeWhere pick rest) + 1
      else removeWhere pick rest) := by
  show (((pick p).run d).2).run _ = _
  rw [hpick]
  rfl

/-- Taking files away adds none. -/
theorem writes_removeWhere {N : Place → List UInt8 → Prop} {pick : Path → StateM Disk Bool}
    (hpick : ∀ p, OnlyReads (pick p)) (files : List Path) : Writes N (removeWhere pick files) := by
  induction files with
  | nil => exact .pure 0
  | cons p rest ih =>
    intro d
    rw [run_removeWhere_cons (hpick p d)]
    cases ((pick p).run d).1 with
    | false => exact ih d
    | true => exact Writes.bind (writes_remove p) (fun _ => ih.bind fun _ => .pure _) d

theorem writes_bundleFiles {N : Place → List UInt8 → Prop} : Writes N c.bundleFiles := by
  refine .bind (writes_list c.folder).caught fun r => ?_
  rcases r with f | names
  · cases f
    case notFound => exact .pure _
    all_goals exact .throw _
  · exact .pure _

theorem writes_removeAll {N : Place → List UInt8 → Prop} : Writes N c.removeAll :=
  c.writes_bundleFiles.bind fun files => writes_removeWhere (fun _ _ => rfl) files

theorem writes_removeOlderThan {N : Place → List UInt8 → Prop} (now : Int) (age : Duration) :
    Writes N (c.removeOlderThan now age) :=
  c.writes_bundleFiles.bind fun files => writes_removeWhere (onlyReads_isStale _) files

theorem writes_removeOlder {N : Place → List UInt8 → Prop} (now : Int) (seconds : Nat) :
    Writes N (c.removeOlder now seconds) := c.writes_removeOlderThan now ⟨seconds, 0⟩

end Cache

end AppBundle
