import AppBundle.Proofs.Bundle.Course
import AppBundle.Proofs.Cache.Options

/-!
# What runs leave of the cache

A run touches two files of the cache, the one of its app and the draft of it. It takes the first one
away if it looks the app up and finds a text there that is no bundle, and it writes both if it makes
a linked bundle anew. Whatever else a run comes to, all files outside its scratch folder are
afterwards as they were (`App.sparesCache`).

A toolchain is asked once, if there is one and the cache does not hold the right bundle. A bundle that
could not be kept is the one that a run without the cache makes, with a warning.
-/

namespace AppBundle

open Disk

/-! ## The files of a bundle -/

namespace Cache

variable {K L : Place → Item → Prop} (c : Cache) (sourceId content : String)

/-- A file that is written by way of a draft leaves alone all but the two, and all but the draft if it
is not written after all. -/
theorem Written.frame {draft target : Path} {bytes : List UInt8} {d : Disk}
    {r : Except DiskFault Unit × Disk} (h : Written draft target bytes d r)
    (hdraft : ∀ bytes, ¬ K (draft.target []) (.file bytes))
    (hdraft' : ∀ bytes, ¬ L (draft.target []) (.file bytes))
    (htarget : r.1 = .ok () → ∀ bytes, ¬ K (target.target []) (.file bytes))
    (htarget' : r.1 = .ok () → ∀ bytes, ¬ L (target.target []) (.file bytes)) :
    Frame K L d r.2 := by
  cases h with
  | refused f => exact .refl _
  | stuck f _ hfree => exact frame_put (not_item_of_file hfree hdraft) (hdraft' _)
  | cleared f _ hfree => exact frame_drop (not_item_of_file hfree hdraft)
  | moved _ hfree _ hfree' =>
    have hdropped := frame_drop (L := L) (not_item_of_file hfree hdraft)
    exact hdropped.trans (frame_put
      (not_item_of_file (fun h => hfree' (folder_of_drop h)) (htarget rfl)) (htarget' rfl _))

/-- Writing a bundle leaves alone all but its file, the draft of it, and the folders of the cache. -/
theorem frame_writeBundle (e : CachedBundle) (hfolders : Leads (Frame K L) (makeFolders c.folder))
    (hdraft : ∀ bytes, ¬ K ((c.draftPath sourceId content).target []) (.file bytes))
    (hdraft' : ∀ bytes, ¬ L ((c.draftPath sourceId content).target []) (.file bytes))
    (hbundle : ∀ bytes, ¬ K ((c.bundlePath sourceId content).target []) (.file bytes))
    (hbundle' : ∀ bytes, ¬ L ((c.bundlePath sourceId content).target []) (.file bytes)) :
    Leads (Frame K L) (c.writeBundle sourceId content e) := fun d =>
  (hfolders d).trans ((c.written_writeBundle sourceId content d e).frame hdraft hdraft'
    (fun _ => hbundle) fun _ => hbundle')

theorem validate_eq_hit {content version : String} {entry e : CachedBundle} :
    validate content version entry = .hit e ↔
      entry = e ∧ e.contentDigest = contentDigest content ∧ e.toolchainVersion = version := by
  unfold validate
  by_cases hdigest : entry.contentDigest = contentDigest content
  · by_cases hversion : entry.toolchainVersion = version
    · simp only [hdigest, hversion, ne_eq, not_true, if_false, CacheAnswer.hit.injEq]
      refine ⟨fun he => ?_, And.left⟩
      rw [← he]
      exact ⟨rfl, hdigest, hversion⟩
    · simp only [hdigest, hversion, ne_eq, not_true, not_false_eq_true, if_true, if_false]
      exact ⟨nofun, fun h => absurd (h.1 ▸ h.2.2) hversion⟩
  · simp only [hdigest, ne_eq, not_false_eq_true, if_true]
    exact ⟨nofun, fun h => absurd (h.1 ▸ h.2.1) hdigest⟩

/-- The cache answers with the bundle in the file if it is the right one. -/
theorem find_eq_hit {version : String} {d : Disk} {e : CachedBundle} :
    ((c.find sourceId content version).run d).1 = .hit e ↔
      ∃ s, (d.run (readText (c.bundlePath sourceId content))).1 = .ok s ∧
        CachedBundle.decoder.readText s = .ok e ∧ e.contentDigest = contentDigest content ∧
        e.toolchainVersion = version := by
  rw [run_find]
  rcases d.run (readText (c.bundlePath sourceId content)) with ⟨f | s, d'⟩
  · cases f <;> simp
  · cases hread : CachedBundle.decoder.readText s with
    | error m => simp [hread]
    | ok entry => simp [hread, validate_eq_hit]

end Cache

/-! ## Looking up -/

/-- The cache in the folder that the options name, whether it is used or not. -/
def AssemblyOptions.cacheAt (o : AssemblyOptions) (w : World) : Cache :=
  ⟨Path.ofText (o.cacheFolder.getD w.environment.bundleFolder), w.process⟩

theorem AssemblyOptions.cache_eq (o : AssemblyOptions) (w : World) :
    o.cache w = if o.caching then some (o.cacheAt w) else none := rfl

/-- The place of the next scratch folder. -/
def World.scratchPlace (w : World) : Place := w.nextScratch.target []

theorem World.scratchPlace_eq (w : World) :
    w.scratchPlace = w.scratchRoot.target [] ++ [scratchName w.scratches] := by
  rw [scratchPlace, ← Path.target_unclosed, w.target_nextScratch]

theorem World.nextScratch_of_disk (w : World) (d : Disk) :
    { w with disk := d }.nextScratch = w.nextScratch := rfl

theorem World.scratched_of_disk (w : World) (d e : Disk) :
    { w with disk := d }.scratched e = w.scratched e := rfl

namespace App

variable (a : App) (o : AssemblyOptions) (t : Toolchain) (w : World)

/-- The place of the file of an app in the cache. -/
def bundlePlace : Place := ((o.cacheAt w).bundlePath a.sourceId a.content).target []

/-- The place of the draft of that file. -/
def draftPlace : Place := ((o.cacheAt w).draftPath a.sourceId a.content).target []

/-- The text that a run finds when it looks its app up. -/
def storedText? : Option String :=
  if o.caching ∧ t.version.isSome then
    (w.disk.run (readText ((o.cacheAt w).bundlePath a.sourceId a.content))).1.toOption
  else none

/-- A run finds a bundle that was made of the text of the app by this toolchain. -/
def Recalls (e : CachedBundle) : Prop :=
  ∃ s ∈ a.storedText? o t w, CachedBundle.decoder.readText s = .ok e ∧
    e.contentDigest = contentDigest a.content ∧ t.version = some e.toolchainVersion

/-- A run finds a text that is no bundle. -/
def Discards : Prop :=
  ∃ s ∈ a.storedText? o t w, ∃ m, CachedBundle.decoder.readText s = .error m

variable {a o t w}

theorem bundlePlace_eq :
    a.bundlePlace o w = (o.cacheAt w).place ++ [bundleName a.sourceId a.content] :=
  (o.cacheAt w).target_bundlePath a.sourceId a.content

theorem scratchPlace_ne_bundlePlace : w.scratchPlace ≠ a.bundlePlace o w := by
  rw [w.scratchPlace_eq, bundlePlace_eq, bundleName]
  intro heq
  exact World.scratchName_ne _ _ (Path.name_inj heq)

/-- A run that finds the right bundle gives it. -/
theorem assemble_of_recalls {e : CachedBundle} (h : a.Recalls o t w e) :
    (a.assemble o t).run w =
      (⟨.ok (a.recalled e), none, []⟩, { w with disk := a.lookedUp o t w }) := by
  obtain ⟨s, hs, hread, hdigest, hversion⟩ := h
  rw [storedText?] at hs
  split at hs
  · next huses =>
    have hcache : o.cache w = some (o.cacheAt w) := by rw [o.cache_eq, if_pos huses.1]
    have htext : (w.disk.run (readText ((o.cacheAt w).bundlePath a.sourceId a.content))).1 =
        .ok s := by
      rcases hrun : w.disk.run (readText ((o.cacheAt w).bundlePath a.sourceId a.content)) with
        ⟨f | s', d⟩ <;> rw [hrun] at hs
      · exact absurd hs (by simp [Except.toOption])
      · exact congrArg Except.ok (Option.some.inj hs)
    have hhit := ((o.cacheAt w).find_eq_hit a.sourceId a.content).mpr ⟨s, htext, hread, hdigest, rfl⟩
    rw [run_assemble, lookedUp, hcache, hversion]
    dsimp only
    rcases hfind : ((o.cacheAt w).find a.sourceId a.content e.toolchainVersion).run w.disk with
      ⟨answer, d⟩
    obtain rfl : answer = .hit e := by rw [hfind] at hhit; exact hhit
    rfl
  · exact absurd hs (by simp)

/-- A run that does not find the right bundle makes it anew. -/
theorem assemble_of_not_recalls (h : ∀ e, ¬ a.Recalls o t w e) :
    ∃ logs, (a.assemble o t).run w =
      ({ ((a.assembleAnew o t (o.cache w)).run { w with disk := a.lookedUp o t w }).1 with logs },
        ((a.assembleAnew o t (o.cache w)).run { w with disk := a.lookedUp o t w }).2) := by
  rcases a.run_assemble_cases o t w with ⟨c, version, e, hc, hversion, hfind, -⟩ | hanew
  · have hhit : ((c.find a.sourceId a.content version).run w.disk).1 = .hit e := by rw [hfind]
    obtain ⟨s, htext, hread, hdigest, hmade⟩ := (c.find_eq_hit a.sourceId a.content).mp hhit
    rw [o.cache_eq] at hc
    split at hc
    · next hcaching =>
      obtain rfl := Option.some.inj hc
      refine absurd ⟨s, ?_, hread, hdigest, hmade ▸ hversion⟩ (h e)
      rw [storedText?, if_pos ⟨hcaching, by simp [hversion]⟩, htext]
      rfl
    · exact absurd hc (by simp)
  · exact hanew

/-- Looking up takes the file of the app away if its text is no bundle. -/
theorem lookedUp_discards :
    a.Discards o t w ∧ w.disk.get? (a.bundlePlace o w) ≠ some .folder ∧
        a.lookedUp o t w = w.disk.drop (a.bundlePlace o w) ∨
      ¬ a.Discards o t w ∧ a.lookedUp o t w = w.disk := by
  unfold Discards storedText? lookedUp
  rw [o.cache_eq]
  cases hcaching : o.caching with
  | false => exact .inr ⟨by simp, rfl⟩
  | true =>
    rcases hversion : t.version with _ | version
    · exact .inr ⟨by simp, rfl⟩
    · simp only [Option.isSome_some, and_self, if_true]
      rw [Cache.run_find]
      rcases readBytes_cases w.disk ((o.cacheAt w).bundlePath a.sourceId a.content) with
        hno | ⟨bytes, hplace, hget⟩
      · -- the file cannot be read
        obtain ⟨f, hno⟩ := hno.readText
        rw [hno]
        refine .inr ⟨by simp [Except.toOption], ?_⟩
        cases f <;> rfl
      · rcases readText_cases w.disk ((o.cacheAt w).bundlePath a.sourceId a.content) with
          ⟨f, hno⟩ | ⟨-, s, -, -, hrun⟩
        · -- its bytes are no text
          rw [hno]
          refine .inr ⟨by simp [Except.toOption], ?_⟩
          cases f <;> rfl
        · -- its text is a bundle, or else it is taken away
          rw [hrun]
          cases hread : CachedBundle.decoder.readText s with
          | ok e => exact .inr ⟨by simp [Except.toOption, hread], by simp only [hread]⟩
          | error m =>
            refine .inl ⟨⟨s, rfl, m, hread⟩, by simp [bundlePlace, hget], ?_⟩
            simp only [hread, run_remove hplace hget]
            rfl

/-- Looking up makes a difference to no other file. -/
theorem lookedUp_alike :
    a.lookedUp o t w = w.disk ∨ AlikeBut (a.bundlePlace o w) w.disk (a.lookedUp o t w) := by
  rcases lookedUp_discards (a := a) (o := o) (t := t) (w := w) with ⟨-, hget, hdrop⟩ | ⟨-, hsame⟩
  · rw [hdrop]
    exact .inr (alikeBut_drop hget).symm
  · exact .inl hsame

/-- The app is generated as well before the cache is asked as after it. -/
theorem run_prepare_alike {d d' e : Disk} (h : AlikeBut (a.bundlePlace o w) d d')
    (hrun : d.run (a.generated.prepare w.nextScratch) = (.ok (), e)) :
    ∃ e', d'.run (a.generated.prepare w.nextScratch) = (.ok (), e') ∧
      AlikeBut (a.bundlePlace o w) e e' := by
  have hplace : w.nextScratch.unclosed.target [] ≠ a.bundlePlace o w := by
    rw [Path.target_unclosed]
    exact scratchPlace_ne_bundlePlace
  exact a.generated.ignores_prepare hplace d d' e () h hrun

theorem run_prepare_eq_ok {d e : Disk} {folder : Path} :
    d.run (a.generated.prepare folder) = (.ok (), e) ↔
      ∃ d', d.run (makeFolder folder) = (.ok (), d') ∧
        d'.run (a.generated.writeTo folder) = (.ok (), e) := by
  rw [Generated.prepare, run_bind_eq_ok]
  constructor
  · rintro ⟨⟨⟩, d', h⟩
    exact ⟨d', h⟩
  · rintro ⟨d', h⟩
    exact ⟨(), d', h⟩

/-! ## When the toolchain is asked -/

/-- A run that makes a bundle anew asks the toolchain, if there is one and the app can be
generated. -/
theorem Course.request_isSome_iff {cache : Option Cache} {r : BundleRun × World}
    (h : a.Course o t cache w r) :
    r.1.request.isSome ↔ t.version.isSome ∧
      ∃ e, w.disk.run (a.generated.prepare w.nextScratch) = (.ok (), e) := by
  cases h with
  | needy hversion => simp [hversion]
  | homeless hmake =>
    simp only [Option.isSome_none, Bool.false_eq_true, false_iff]
    rintro ⟨-, e, hprepare⟩
    obtain ⟨d, hmade, -⟩ := run_prepare_eq_ok.mp hprepare
    rw [hmake] at hmade
    exact absurd (Prod.mk.inj hmade).1 (by simp)
  | unwritten hmake hwrite =>
    simp only [Option.isSome_none, Bool.false_eq_true, false_iff]
    rintro ⟨-, e, hprepare⟩
    obtain ⟨d, hmade, hwritten⟩ := run_prepare_eq_ok.mp hprepare
    obtain ⟨-, rfl⟩ := Prod.mk.inj (hmade.symm.trans hmake)
    exact absurd (Prod.mk.inj (hwritten.symm.trans hwrite)).1 (by simp)
  | unlinked hversion => simp [hversion]
  | failed hversion hmake hwrite | linked hversion hmake hwrite =>
    have hprepare := run_prepare_eq_ok.mpr ⟨_, hmake, hwrite⟩
    simp [hversion, hprepare]

/-- What the toolchain makes of the generated code is what the run gives. -/
theorem Course.result_of_answer {cache : Option Cache} {r : BundleRun × World}
    (h : a.Course o t cache w r) {version : String} {out : LinkOutput} {d e : Disk}
    (hversion : t.version = some version)
    (hprepare : w.disk.run (a.generated.prepare w.nextScratch) = (.ok (), e))
    (hanswer : (t.bundle ⟨w.nextScratch, o.minify⟩).run e = (.ok out, d)) :
    r.1.result = .ok (a.linked o version w.nextScratch out
      ((keep cache (some version) true (a.linkedBundle out)).run (w.scratched d)).1.1) := by
  have hasked : r.1.request.isSome := h.request_isSome_iff.mpr ⟨by simp [hversion], e, hprepare⟩
  have hsame : ∀ {d' e' : Disk}, w.disk.run (makeFolder w.nextScratch) = (.ok (), d') →
      d'.run (a.generated.writeTo w.nextScratch) = (.ok (), e') → e' = e := by
    intro d' e' hmake hwrite
    have hprepare' := run_prepare_eq_ok.mpr ⟨d', hmake, hwrite⟩
    exact (Prod.mk.inj (hprepare'.symm.trans hprepare)).2
  cases h with
  | needy | homeless | unwritten | unlinked => exact absurd hasked (by simp)
  | failed _ hmake hwrite hbundle =>
    obtain rfl := hsame hmake hwrite
    exact absurd (Prod.mk.inj (hbundle.symm.trans hanswer)).1 (by simp)
  | linked hversion' hmake hwrite hbundle hkeep =>
    obtain rfl := hsame hmake hwrite
    obtain rfl := Option.some.inj (hversion'.symm.trans hversion)
    obtain ⟨hout, rfl⟩ := Prod.mk.inj (hbundle.symm.trans hanswer)
    obtain rfl := Except.ok.inj hout
    rw [hkeep]

/-- A toolchain is asked if there is one, the cache does not hold the right bundle, and the app can
be generated. -/
theorem request_isSome_iff :
    ((a.assemble o t).run w).1.request.isSome ↔
      t.version.isSome ∧ (¬ ∃ e, a.Recalls o t w e) ∧
        ∃ e, (a.lookedUp o t w).run (a.generated.prepare w.nextScratch) = (.ok (), e) := by
  by_cases hrecalls : ∃ e, a.Recalls o t w e
  · obtain ⟨e, he⟩ := hrecalls
    rw [assemble_of_recalls he]
    simp only [Option.isSome_none, Bool.false_eq_true, false_iff]
    exact fun hno => hno.2.1 ⟨e, he⟩
  · obtain ⟨logs, hanew⟩ := assemble_of_not_recalls (not_exists.mp hrecalls)
    have hasked := (course a o t (o.cache w) { w with disk := a.lookedUp o t w }).request_isSome_iff
    rw [World.nextScratch_of_disk] at hasked
    rw [hanew]
    simp only [hrecalls, not_false_eq_true, true_and]
    exact hasked

/-- An app that can be generated can be generated after the cache was asked. -/
theorem run_prepare_lookedUp (h : ∀ f, ¬ a.ScratchFault w f) :
    ∃ e, (a.lookedUp o t w).run (a.generated.prepare w.nextScratch) = (.ok (), e) := by
  rcases hrun : w.disk.run (a.generated.prepare w.nextScratch) with ⟨f | ⟨⟨⟩⟩, e⟩
  · exact absurd (congrArg Prod.fst hrun) (h f)
  · rcases lookedUp_alike (a := a) (o := o) (t := t) (w := w) with hsame | halike
    · exact ⟨e, by rw [hsame, hrun]⟩
    · obtain ⟨e', hrun', -⟩ := run_prepare_alike halike hrun
      exact ⟨e', hrun'⟩

end App

/-! ## Toolchains that take notes -/

/-- The disk with one more byte in a file that takes notes. -/
def Disk.note (log : Place) (d : Disk) : Disk :=
  d.put log (.file ((d.fileAt log).getD [] ++ [0]))

/-- The toolchain, noting in a file that it is asked. -/
def Toolchain.noted (t : Toolchain) (log : Place) : Toolchain where
  version := t.version
  bundle r := do
    modify (Disk.note log)
    t.bundle r

theorem fileAt_note {d : Disk} {log : Place} {bytes : List UInt8}
    (h : d.fileAt log = some bytes) : (d.note log).fileAt log = some (bytes ++ [0]) := by
  have hne := ne_nil_of_file (fileAt_eq_some.mp h)
  rw [fileAt_eq_some, Disk.note, h]
  exact get?_put_self d _ hne

section Files

variable {P : Place → Prop} {a : App} {o : AssemblyOptions} {t : Toolchain} {cache : Option Cache}
  {w : World}

theorem frame_makeFolders (p : Path) : Leads (Frame (FilesAt P) (FilesAt P)) (makeFolders p) :=
  leads_makeFolders (frame_makeFolder not_filesAt_folder) fun _ _ =>
    frame_makeFolder not_filesAt_folder

theorem frame_writeBundle_files (e : CachedBundle) (hdraft : ¬ P (a.draftPlace o w))
    (hbundle : ¬ P (a.bundlePlace o w)) :
    Leads (Frame (FilesAt P) (FilesAt P))
      ((o.cacheAt w).writeBundle a.sourceId a.content e) :=
  (o.cacheAt w).frame_writeBundle a.sourceId a.content e (frame_makeFolders _)
    (fun _ => not_filesAt hdraft _) (fun _ => not_filesAt hdraft _)
    (fun _ => not_filesAt hbundle _) fun _ => not_filesAt hbundle _

/-- A run that makes a bundle anew leaves the files outside its scratch folder alone, but for the
two that it may write in the cache. -/
theorem App.Course.frame_files {r : BundleRun × World} (h : a.Course o t cache w r)
    (ht : t.Confined) (hcache : ∀ c, cache = some c → c = o.cacheAt w)
    (hout : ∀ q, w.scratchPlace <+: q → ¬ P q)
    (hkeep : r.1.Linked → ¬ P (a.draftPlace o w) ∧ ¬ P (a.bundlePlace o w)) :
    Frame (FilesAt P) (FilesAt P) w.disk r.2.disk := by
  have hapart : Apart (FilesAt P) (w.nextScratch.target []) := apart_filesAt hout
  refine h.leads (frame_makeFolder not_filesAt_folder) (frame_writeTo a hapart.beyond hapart.beyond)
    (ht.frame (r := ⟨w.nextScratch, o.minify⟩) hapart.beyond hapart.beyond)
    (fun v => v.frame_without hapart) fun hlinked c e hc => ?_
  obtain rfl := hcache c hc
  exact frame_writeBundle_files e (hkeep hlinked).1 (hkeep hlinked).2

/-- A toolchain that takes notes of what it is asked is asked once or not at all. -/
theorem App.Course.once {log : Place} {bytes : List UInt8} {r : BundleRun × World}
    (h : a.Course o (t.noted log) cache w r) (ht : t.Confined)
    (hcache : ∀ c, cache = some c → c = o.cacheAt w) (hout : ¬ w.scratchPlace <+: log)
    (hdraft : log ≠ a.draftPlace o w) (hbundle : log ≠ a.bundlePlace o w)
    (hlog : w.disk.fileAt log = some bytes) :
    r.2.disk.fileAt log = some (if r.1.request.isSome then bytes ++ [0] else bytes) := by
  have hapart : Apart (FilesAt (· = log)) (w.nextScratch.target []) :=
    apart_filesAt fun q hq heq => hout (heq ▸ hq)
  have hgenerated : ∀ {d e : Disk} {x : Except DiskFault Unit},
      w.disk.run (makeFolder w.nextScratch) = (.ok (), d) →
      d.run (a.generated.writeTo w.nextScratch) = (x, e) → e.fileAt log = some bytes := by
    intro d e x hmade hwritten
    have hframe := ((frame_makeFolder not_filesAt_folder).of_run hmade).trans
      ((frame_writeTo a hapart.beyond hapart.beyond).of_run hwritten)
    rw [hframe.fileAt rfl, hlog]
  -- the answer writes nothing where the notes are, so they are one byte longer
  have hasked : ∀ {e : Disk}, e.fileAt log = some bytes →
      (((t.noted log).bundle ⟨w.nextScratch, o.minify⟩).run e).2.fileAt log =
        some (bytes ++ [0]) := by
    intro e he
    have hframe := ht.frame (r := ⟨w.nextScratch, o.minify⟩) hapart.beyond hapart.beyond
      (e.note log)
    rw [← fileAt_note he]
    exact hframe.fileAt rfl
  have hwithout : ∀ v : World, (v.without w.nextScratch).disk.fileAt log = v.disk.fileAt log :=
    fun v => (v.frame_without hapart).fileAt rfl
  cases h with
  | needy => exact hlog
  | homeless => exact hlog
  | unwritten hmade hwritten => exact (hwithout _).trans (hgenerated hmade hwritten)
  | unlinked _ hmade hwritten => exact hgenerated hmade hwritten
  | failed _ hmade hwritten hanswer =>
    have hnoted := hasked (hgenerated hmade hwritten)
    rw [hanswer] at hnoted
    exact (hwithout _).trans hnoted
  | @linked d e e' version out kept keptLogs logs w' _ hmade hwritten hanswer hkept =>
    have hnoted := hasked (hgenerated hmade hwritten)
    rw [hanswer] at hnoted
    -- the notes are neither the draft nor the bundle that is kept
    have hled : Frame (FilesAt (· = log)) (FilesAt (· = log)) e' w'.disk := by
      have hkeep := leads_keep (R := Frame (FilesAt (· = log)) (FilesAt (· = log))) cache
        (w := w.scratched e') (b := a.linkedBundle out) (some version) true fun c entry hc => by
          obtain rfl := hcache c hc
          exact frame_writeBundle_files entry (Ne.symm hdraft) (Ne.symm hbundle)
      rwa [hkept] at hkeep
    have hcached : w'.disk.fileAt log = some (bytes ++ [0]) := (hled.fileAt rfl).trans hnoted
    dsimp only
    split
    · exact hcached
    · exact (hwithout w').trans hcached

end Files

/-! ## Bundles that are not kept -/

/-- What is said about a bundle that was to be kept. -/
def SaveResult.diagnostics : SaveResult → List Diagnostic
  | .failed f => [.warning ("Bundle cache not written: " ++ f.message)]
  | .saved _ => []

/-- The bundle with more that is said about it. -/
def Assembled.noting (x : Assembled) (more : List Diagnostic) : Assembled :=
  { x with metadata := { x.metadata with diagnostics := x.metadata.diagnostics ++ more } }

theorem diagnostics_keep (c : Cache) (version : String) (b : Bundle) (w : World) :
    ((keep (some c) (some version) true b).run w).1.1 =
      (((c.save b.sourceId b.content (b.toCached version w.now)).run w.disk).1).diagnostics := by
  unfold keep
  simp only [if_true]
  rw [state_run_bind, state_run_bind]
  rfl

/-- What a toolchain answers to a request does not depend on the file at a place. -/
def Toolchain.Overlooks (t : Toolchain) (r : LinkRequest) (p : Place) : Prop :=
  ∀ d d', AlikeBut p d d' → ((t.bundle r).run d).1 = ((t.bundle r).run d').1

/-- The same options without the cache. -/
def AssemblyOptions.uncached (o : AssemblyOptions) : AssemblyOptions :=
  { o with caching := false }

namespace App

variable (a : App) (o : AssemblyOptions) (t : Toolchain) (w : World)

/-- The toolchain answers the run with an output, and leaves a disk. -/
def Answered (out : LinkOutput) (d : Disk) : Prop :=
  ∃ e, (a.lookedUp o t w).run (a.generated.prepare w.nextScratch) = (.ok (), e) ∧
    (t.bundle ⟨w.nextScratch, o.minify⟩).run e = (.ok out, d)

variable {a o t w}

theorem linked_noting (version : String) (folder : Path) (out : LinkOutput)
    (kept : List Diagnostic) :
    a.linked o version folder out kept = (a.linked o version folder out []).noting kept := by
  simp only [linked, report, Assembled.noting, List.append_nil]

/-- A bundle that a toolchain linked is given as it is without the cache, with what there is to say
about keeping it. -/
theorem run_assemble_of_answered {version : String} {out : LinkOutput} {d : Disk}
    (hcaching : o.caching = true) (hversion : t.version = some version)
    (hmiss : ∀ e, ¬ a.Recalls o t w e) (h : a.Answered o t w out d)
    (ht : a.Discards o t w → t.Overlooks ⟨w.nextScratch, o.minify⟩ (a.bundlePlace o w)) :
    ∃ y, ((a.assemble o.uncached t).run w).1.result = .ok y ∧
      ((a.assemble o t).run w).1.result = .ok (y.noting (((o.cacheAt w).save a.sourceId a.content
        ((a.linkedBundle out).toCached version w.now)).run d).1.diagnostics) := by
  obtain ⟨e, hprepare, hanswer⟩ := h
  have hcache : o.cache w = some (o.cacheAt w) := by rw [o.cache_eq, if_pos hcaching]
  -- without the cache, the toolchain is asked on a disk that differs in the file of the app at most
  obtain ⟨e₀, hprepare₀, hsame⟩ : ∃ e₀,
      w.disk.run (a.generated.prepare w.nextScratch) = (.ok (), e₀) ∧
        ((t.bundle ⟨w.nextScratch, o.minify⟩).run e₀).1 = .ok out := by
    rcases lookedUp_discards (a := a) (o := o) (t := t) (w := w) with ⟨hdiscards, hget, hdrop⟩ | ⟨-, hdisk⟩
    · rw [hdrop] at hprepare
      obtain ⟨e₀, hprepare₀, halike⟩ := run_prepare_alike (alikeBut_drop hget) hprepare
      refine ⟨e₀, hprepare₀, ?_⟩
      rw [← ht hdiscards e e₀ halike, hanswer]
    · rw [hdisk] at hprepare
      exact ⟨e, hprepare, by rw [hanswer]⟩
  have hcached : ((a.assemble o t).run w).1.result =
      .ok (a.linked o version w.nextScratch out ((keep (some (o.cacheAt w)) (some version) true
        (a.linkedBundle out)).run (w.scratched d)).1.1) := by
    have hresult := (course a o t (some (o.cacheAt w))
      { w with disk := a.lookedUp o t w }).result_of_answer hversion hprepare hanswer
    rw [World.scratched_of_disk, World.nextScratch_of_disk] at hresult
    obtain ⟨logs, hanew⟩ := assemble_of_not_recalls hmiss
    rw [hanew, hcache]
    exact hresult
  have huncached : ((a.assemble o.uncached t).run w).1.result =
      .ok (a.linked o version w.nextScratch out []) := by
    have hrun : (a.assemble o.uncached t).run w = (a.assembleAnew o.uncached t none).run w := by
      rw [run_assemble]
      rfl
    rw [hrun]
    exact (course a o.uncached t none w).result_of_answer hversion hprepare₀ (Prod.ext hsame rfl)
  refine ⟨_, huncached, ?_⟩
  rw [hcached, linked_noting, diagnostics_keep]
  rfl

end App

/-! ## All runs -/

namespace App

section

variable {a : App} {o : AssemblyOptions} {t : Toolchain} {w : World} {q : Place}

theorem not_recalls_of_discards (h : a.Discards o t w) : ¬ ∃ e, a.Recalls o t w e := by
  obtain ⟨s, hs, m, hm⟩ := h
  rintro ⟨e, s', hs', he, -⟩
  obtain rfl := Option.some.inj (hs.symm.trans hs')
  rw [hm] at he
  exact absurd he (by simp)

theorem fileAt_lookedUp (hq : q = a.bundlePlace o w → ¬ a.Discards o t w) :
    (a.lookedUp o t w).fileAt q = w.disk.fileAt q := by
  rcases lookedUp_discards (a := a) (o := o) (t := t) (w := w) with ⟨hdiscards, -, hdrop⟩ | ⟨-, hsame⟩
  · have hne : a.bundlePlace o w ≠ q := fun heq => hq heq.symm hdiscards
    rw [hdrop]
    exact (frame_drop fun _ _ => not_filesAt (P := (· = q)) hne _).fileAt rfl
  · rw [hsame]

theorem fileAt_lookedUp_of_discards (h : a.Discards o t w) :
    (a.lookedUp o t w).fileAt (a.bundlePlace o w) = none := by
  rcases lookedUp_discards (a := a) (o := o) (t := t) (w := w) with ⟨-, -, hdrop⟩ | ⟨hno, -⟩
  · have hne : a.bundlePlace o w ≠ [] := by simp [bundlePlace_eq]
    rw [hdrop, fileAt, get?_drop _ hne, if_pos rfl]
  · exact absurd h hno

theorem cacheAt_of_cache {c : Cache} (h : o.cache w = some c) : c = o.cacheAt w := by
  rw [o.cache_eq] at h
  split at h
  · exact (Option.some.inj h).symm
  · exact absurd h (by simp)

/-- After the cache was asked, a run leaves alone the files that it does not write in the cache. -/
theorem fileAt_assemble (ht : t.Confined) (hout : ¬ w.scratchPlace <+: q)
    (hlinked : ((a.assemble o t).run w).1.Linked → q ≠ a.draftPlace o w ∧ q ≠ a.bundlePlace o w) :
    ((a.assemble o t).run w).2.disk.fileAt q = (a.lookedUp o t w).fileAt q := by
  by_cases hrecalls : ∃ e, a.Recalls o t w e
  · obtain ⟨e, he⟩ := hrecalls
    rw [assemble_of_recalls he]
  · obtain ⟨logs, hanew⟩ := assemble_of_not_recalls (not_exists.mp hrecalls)
    have hcourse := course a o t (o.cache w) { w with disk := a.lookedUp o t w }
    have hframe := hcourse.frame_files (P := (· = q)) ht (fun _ => cacheAt_of_cache)
      (fun q' hq' heq => hout (heq ▸ hq')) fun hlink => by
        obtain ⟨hdraft, hbundle⟩ := hlinked (by rw [hanew]; exact hlink)
        exact ⟨hdraft.symm, hbundle.symm⟩
    rw [hanew]
    exact hframe.fileAt rfl

/-- A toolchain that takes notes is asked as often as the run says. -/
theorem fileAt_assemble_noted {log : Place} {bytes : List UInt8} (ht : t.Confined)
    (hout : ¬ w.scratchPlace <+: log) (hdraft : log ≠ a.draftPlace o w)
    (hbundle : log ≠ a.bundlePlace o w) (hlog : w.disk.fileAt log = some bytes) :
    ((a.assemble o (t.noted log)).run w).2.disk.fileAt log =
      some (if ((a.assemble o t).run w).1.request.isSome then bytes ++ [0] else bytes) := by
  have hlooked : (a.lookedUp o (t.noted log) w).fileAt log = some bytes := by
    rw [fileAt_lookedUp fun heq => absurd heq hbundle, hlog]
  have hsame : ((a.assemble o (t.noted log)).run w).1.request.isSome =
      ((a.assemble o t).run w).1.request.isSome := by
    rw [Bool.eq_iff_iff, request_isSome_iff, request_isSome_iff]
    exact Iff.rfl
  rw [← hsame]
  by_cases hrecalls : ∃ e, a.Recalls o (t.noted log) w e
  · obtain ⟨e, he⟩ := hrecalls
    rw [assemble_of_recalls he]
    exact hlooked
  · obtain ⟨logs, hanew⟩ := assemble_of_not_recalls (not_exists.mp hrecalls)
    rw [hanew]
    exact (course a o (t.noted log) (o.cache w) _).once ht (fun _ => cacheAt_of_cache) hout hdraft
      hbundle hlooked

end

/-- What a run does to the files of the cache, and what these do to the run. -/
structure SparesCache (a : App) (o : AssemblyOptions) (t : Toolchain) (w : World) : Prop where
  /-- If the app can be generated, the toolchain is asked if there is one and the cache does not hold
  the right bundle. -/
  asks : (∀ f, ¬ a.ScratchFault w f) → (((a.assemble o t).run w).1.request.isSome ↔
    t.version.isSome ∧ ¬ ∃ e, a.Recalls o t w e)
  /-- A run that asks the toolchain asks it once. -/
  once : ∀ {log bytes}, ¬ w.scratchPlace <+: log → log ≠ a.draftPlace o w →
    log ≠ a.bundlePlace o w → w.disk.fileAt log = some bytes →
    ((a.assemble o (t.noted log)).run w).2.disk.fileAt log =
      some (if ((a.assemble o t).run w).1.request.isSome then bytes ++ [0] else bytes)
  /-- A run that links nothing leaves all files outside its scratch folder alone, but for the one
  whose text it discards. -/
  spares : ¬ ((a.assemble o t).run w).1.Linked → ∀ q, ¬ w.scratchPlace <+: q →
    (q = a.bundlePlace o w → ¬ a.Discards o t w) →
    ((a.assemble o t).run w).2.disk.fileAt q = w.disk.fileAt q
  /-- A run that links nothing leaves nothing of a text that it discards. -/
  discards : ¬ ((a.assemble o t).run w).1.Linked → a.Discards o t w →
    ¬ w.scratchPlace <+: a.bundlePlace o w →
    ((a.assemble o t).run w).2.disk.fileAt (a.bundlePlace o w) = none
  /-- No run writes files outside its scratch folder but that of the app and the draft of it. -/
  writes : ∀ q, ¬ w.scratchPlace <+: q → q ≠ a.bundlePlace o w → q ≠ a.draftPlace o w →
    ((a.assemble o t).run w).2.disk.fileAt q = w.disk.fileAt q
  /-- A bundle that was made anew is the one that is made without the cache, with a warning if it
  could not be kept. The toolchain has to make the same of the code where a text was discarded as where
  it still stands. -/
  warns : ∀ {version out d kept}, o.caching = true → t.version = some version →
    (∀ e, ¬ a.Recalls o t w e) →
    (a.Discards o t w → t.Overlooks ⟨w.nextScratch, o.minify⟩ (a.bundlePlace o w)) →
    a.Answered o t w out d →
    (((o.cacheAt w).save a.sourceId a.content
      ((a.linkedBundle out).toCached version w.now)).run d).1 = kept →
    ∃ y, ((a.assemble o.uncached t).run w).1.result = .ok y ∧
      (∀ f, kept = .failed f → ((a.assemble o t).run w).1.result =
        .ok (y.noting [.warning ("Bundle cache not written: " ++ f.message)])) ∧
      ∀ file, kept = .saved file → ((a.assemble o t).run w).1.result = .ok y

/-- Runs spare the cache, if the toolchain keeps to the folder that it is given. -/
theorem sparesCache (a : App) (o : AssemblyOptions) {t : Toolchain} (w : World) (ht : t.Confined) :
    a.SparesCache o t w where
  asks hscratch := by
    rw [request_isSome_iff]
    simp only [run_prepare_lookedUp hscratch, and_true]
  once := fileAt_assemble_noted ht
  spares hlinked q hout hq := by
    rw [fileAt_assemble ht hout fun hno => absurd hno hlinked, fileAt_lookedUp hq]
  discards hlinked hdiscards hout := by
    rw [fileAt_assemble ht hout fun hno => absurd hno hlinked]
    exact fileAt_lookedUp_of_discards hdiscards
  writes q hout hbundle hdraft := by
    rw [fileAt_assemble ht hout fun _ => ⟨hdraft, hbundle⟩,
      fileAt_lookedUp fun heq => absurd heq hbundle]
  warns {version out d kept} hcaching hversion hmiss hreads hanswer hkept := by
    obtain ⟨y, huncached, hcached⟩ :=
      run_assemble_of_answered hcaching hversion hmiss hanswer hreads
    rw [hkept] at hcached
    refine ⟨y, huncached, fun f hf => ?_, fun file hfile => ?_⟩
    · rw [hcached, hf, SaveResult.diagnostics]
    · rw [hcached, hfile, SaveResult.diagnostics, Assembled.noting, List.append_nil]

end App

/-! ## A cache that cannot be written -/

theorem confined_sizeToolchain : sizeToolchain.Confined := fun _ _ _ _ => rfl

/-- A disk on which the app has a text that is no bundle, and a folder where the draft has to be. -/
def spoiledDisk : Disk :=
  ⟨[(["tmp"], .folder), (["cache"], .folder),
    (buttonApp.bundlePlace cachingRun (worldAfter 0 freshDisk), .file (Text.encode ['{'])),
    (buttonApp.draftPlace cachingRun (worldAfter 0 freshDisk), .folder)]⟩

theorem spoiledDisk_text : buttonApp.Discards cachingRun sizeToolchain (worldAfter 0 spoiledDisk) := by
  have htext : buttonApp.storedText? cachingRun sizeToolchain (worldAfter 0 spoiledDisk) = some "\x7b" := by
    decide +kernel
  have hfault : (CachedBundle.decoder.readText "\x7b").toOption.isNone := by decide +kernel
  refine ⟨"\x7b", htext, ?_⟩
  cases hread : CachedBundle.decoder.readText "\x7b" with
  | error m => exact ⟨m, rfl⟩
  | ok e =>
    rw [hread] at hfault
    exact absurd hfault (by simp [Except.toOption])

theorem run_prepare_spoiledDisk :
    ((buttonApp.lookedUp cachingRun sizeToolchain (worldAfter 0 spoiledDisk)).run
      (buttonApp.generated.prepare (worldAfter 0 spoiledDisk).nextScratch)).1 = .ok () := by
  decide +kernel

theorem run_sizeToolchain (folder : Path) (d : Disk) :
    (sizeToolchain.bundle ⟨folder, false⟩).run d = (.ok ⟨"large", none, []⟩, d) := rfl

/-- What the app is generated into after its text was discarded. -/
def discardedDisk : Disk :=
  ((buttonApp.lookedUp cachingRun sizeToolchain (worldAfter 0 spoiledDisk)).run
    (buttonApp.generated.prepare (worldAfter 0 spoiledDisk).nextScratch)).2

theorem run_save_discardedDisk :
    (((cachingRun.cacheAt (worldAfter 0 spoiledDisk)).save buttonApp.sourceId buttonApp.content
      ((buttonApp.linkedBundle ⟨"large", none, []⟩).toCached "1" 0)).run discardedDisk).1 =
        .failed .isFolder := by
  decide +kernel

/-- The text is discarded, the bundle that is made instead cannot be kept, and the run gives it with a
warning. -/
theorem spoiledDisk_warns :
    sizeToolchain.Confined ∧
      buttonApp.Discards cachingRun sizeToolchain (worldAfter 0 spoiledDisk) ∧
      ∃ y, ((buttonApp.assemble cachingRun.uncached sizeToolchain).run
          (worldAfter 0 spoiledDisk)).1.result = .ok y ∧
        ((buttonApp.assemble cachingRun sizeToolchain).run (worldAfter 0 spoiledDisk)).1.result =
          .ok (y.noting [.warning ("Bundle cache not written: " ++ DiskFault.isFolder.message)]) := by
  have hmiss : ∀ e, ¬ buttonApp.Recalls cachingRun sizeToolchain (worldAfter 0 spoiledDisk) e :=
    not_exists.mp (App.not_recalls_of_discards spoiledDisk_text)
  have hanswer : buttonApp.Answered cachingRun sizeToolchain (worldAfter 0 spoiledDisk)
      ⟨"large", none, []⟩ discardedDisk :=
    ⟨discardedDisk, Prod.ext run_prepare_spoiledDisk (by rw [discardedDisk]), run_sizeToolchain _ _⟩
  have hversion : sizeToolchain.version = some "1" := rfl
  have hreads : sizeToolchain.Overlooks ⟨(worldAfter 0 spoiledDisk).nextScratch, cachingRun.minify⟩
      (buttonApp.bundlePlace cachingRun (worldAfter 0 spoiledDisk)) := fun _ _ _ => rfl
  have hspares := buttonApp.sparesCache cachingRun (worldAfter 0 spoiledDisk) confined_sizeToolchain
  obtain ⟨y, huncached, hwarned, -⟩ :=
    hspares.warns rfl hversion hmiss (fun _ => hreads) hanswer run_save_discardedDisk
  exact ⟨confined_sizeToolchain, spoiledDisk_text, y, huncached, hwarned _ rfl⟩

end AppBundle
