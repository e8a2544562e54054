import AppBundle.Proofs.Bundle.Kept

/-!
# The cache makes no difference

A cache is *sound* if every file in it that holds a bundle holds one that was made of some app under
its key (`CacheSound`). Runs keep the cache sound, whatever fails in them, and so does everything
else that puts no bundles into it (`CacheHistory.sound`). A hit in a sound cache is the bundle that
would have been made anew, as long as digests tell the apps apart
(`CacheHistory.assemble_transparent`).
-/

namespace AppBundle

open Disk

/-! ## Sound caches -/

/-- The bundle is one that is kept for the app under the key. -/
def App.Keeps (a : App) (link : Linker) (minify : Bool) (key : String) (e : CachedBundle) : Prop :=
  key = bundleKey a.sourceId a.content ∧ ∃ version b now,
    a.bundleBy link minify (some version) = .ok b ∧ e = b.toCached version now

/-- All bundles in a cache are kept for apps of a list. -/
def CacheSound (link : Linker) (place : Place) (minify : Bool) (apps : List App) (d : Disk) :
    Prop :=
  Holds (fun key e => ∃ a ∈ apps, a.Keeps link minify key e) place d

theorem CacheSound.kept {link : Linker} {place : Place} {minify : Bool} {apps : List App} {a : App}
    {d d' : Disk} (h : CacheSound link place minify apps d)
    (hadds : Adds (KeptIn (a.Keeps link minify) place) d d') :
    CacheSound link place minify (a :: apps) d' := by
  have hmore : CacheSound link place minify (a :: apps) d := by
    refine h.mono ?_
    rintro _ _ ⟨b, hb, hkeeps⟩
    exact ⟨b, List.mem_cons_of_mem _ hb, hkeeps⟩
  exact hmore.adds (hadds.mono fun _ _ hkept key e hp he =>
    ⟨a, List.mem_cons_self, hkept key e hp he⟩)

/-! ## Histories -/

/-- A run over the cache at a place: its toolchain follows the linker and puts no bundles into the
cache itself. -/
structure RunsOver (link : Linker) (place : Place) (minify : Bool) (o : AssemblyOptions)
    (t : Toolchain) (w : World) : Prop where
  minify : o.minify = minify
  cache : ∀ c, o.cache w = some c → c.place = place
  follows : t.Follows link
  spares : ∀ r d, Adds (NoBundle place) d ((t.bundle r).run d).2

/-- The apps of the runs over a cache that was empty at first, and the disk they leave. Between the
runs anything may happen to the disk except that files that hold bundles come into the cache. -/
inductive CacheHistory (link : Linker) (place : Place) (minify : Bool) : List App → Disk → Prop
  /-- Nothing stands in the cache. -/
  | empty {d : Disk} (hempty : ∀ name, d.get? (place ++ [name]) = none) :
      CacheHistory link place minify [] d
  /-- The bundle of an app is made or taken from the cache. -/
  | run {apps : List App} {w : World} (a : App) (o : AssemblyOptions) (t : Toolchain)
      (h : CacheHistory link place minify apps w.disk) (hrun : RunsOver link place minify o t w) :
      CacheHistory link place minify (a :: apps) ((a.assemble o t).run w).2.disk
  /-- Others change the disk. -/
  | change {apps : List App} {d d' : Disk} (h : CacheHistory link place minify apps d)
      (hchange : Adds (NoBundle place) d d') : CacheHistory link place minify apps d'

section Runs

variable {link : Linker} {place : Place} {minify : Bool} {apps : List App} {a : App}
  {o : AssemblyOptions} {t : Toolchain} {w : World}

/-- What a toolchain links that follows the linker is the bundle of the app. -/
theorem App.Links.bundleBy (ht : t.Follows link) {version : String}
    (hversion : t.version = some version) {out : LinkOutput} (h : a.Links t w minify out) :
    a.bundleBy link minify (some version) =
      .ok (a.bundleWith out.code (readMap out.sourceMap).1) := by
  obtain ⟨d, e, hprepare, hbundle⟩ := h
  have hout := ht version hversion a.generated w.nextScratch minify w.disk d hprepare
  rw [hbundle] at hout
  rw [App.bundleBy, ← hout]

theorem RunsOver.adds (hrun : RunsOver link place minify o t w) :
    Adds (KeptIn (a.Keeps link minify) place) w.disk ((a.assemble o t).run w).2.disk := by
  refine App.adds_assemble hrun.cache hrun.spares fun v out hv hlinks _ => ?_
  rw [hrun.minify] at hlinks
  exact ⟨rfl, v, _, w.now, hlinks.bundleBy hrun.follows hv, rfl⟩

theorem CacheHistory.sound {d : Disk} (h : CacheHistory link place minify apps d) :
    CacheSound link place minify apps d := by
  induction h with
  | empty hempty => exact holds_empty hempty
  | run a o t _ hrun ih => exact ih.kept hrun.adds
  | change _ hchange ih => exact ih.noBundle hchange

/-- A hit in a sound cache is the bundle of the app, if digests tell the apps apart. -/
theorem CacheSound.recalled {d : Disk} (h : CacheSound link place minify apps d)
    (hkey : ∀ b ∈ apps, bundleKey b.sourceId b.content = bundleKey a.sourceId a.content →
      b.sourceId ++ b.content = a.sourceId ++ a.content)
    (hdigest : ∀ b ∈ apps, contentDigest b.content = contentDigest a.content →
      b.content = a.content)
    (hparse : ∀ b ∈ apps, b.sourceId = a.sourceId → b.content = a.content → b = a)
    {c : Cache} (hc : c.place = place) {version : String} {e : CachedBundle}
    (hhit : ((c.find a.sourceId a.content version).run d).1 = .hit e) :
    a.bundleBy link minify (some version) = .ok (a.recalled e).bundle := by
  obtain ⟨bytes, hget, he, hcontent, hversion⟩ := c.find_hit a.sourceId a.content version hhit
  rw [hc] at hget
  obtain ⟨b, hb, hsame, version', bundle, now, hmade, rfl⟩ := h _ bytes e hget he
  obtain ⟨code, map, rfl⟩ := b.bundleBy_eq_ok hmade
  have hcontent : b.content = a.content := hdigest b hb hcontent
  have hid : b.sourceId = a.sourceId := by
    have hboth := hkey b hb hsame.symm
    rw [hcontent] at hboth
    exact (String.append_left_inj a.content).mp hboth
  obtain rfl := hparse b hb hid hcontent
  obtain rfl : version' = version := hversion
  exact hmade

end Runs

/-! ## A run and its repetition -/

/-- An app with a single handler. -/
def buttonApp : App where
  sourceId := "app"
  content := "<b onClick=\"go()\"/>"
  template := "<b onClick=\"go()\"/>"
  scripts := []
  handlers := [⟨"go0", "onClick", "go()", false, [],
    ⟨⟨1, 3, 3⟩, ⟨1, 17, 17⟩⟩, ⟨⟨1, 12, 12⟩, ⟨1, 16, 16⟩⟩, ⟨"b", none, 1⟩⟩]

/-- A disk with an empty cache. -/
def freshDisk : Disk :=
  ⟨[(["tmp"], .folder), (["cache"], .folder)]⟩

/-- The world of a run that others went before. -/
def worldAfter (runs : Nat) (d : Disk) : World :=
  ⟨d, 1000 * runs, ⟨[], none, "/tmp"⟩, 1, runs⟩

@[simp] theorem worldAfter_disk (runs : Nat) (d : Disk) : (worldAfter runs d).disk = d := rfl

/-- A run that uses the cache and keeps the generated code. -/
def cachingRun : AssemblyOptions :=
  ⟨false, true, true, some "/cache"⟩

/-- The cache of these runs. -/
def runCache : Cache :=
  ⟨["cache"], 1⟩

theorem cachingRun_cache (runs : Nat) (d : Disk) :
    cachingRun.cache (worldAfter runs d) = some runCache := by
  have hfolder : Path.ofText "/cache" = ["cache"] := by decide
  simp [AssemblyOptions.cache, cachingRun, runCache, worldAfter, hfolder]

/-- The disk with the generated code of the app. -/
def buttonDisk : Disk :=
  (freshDisk.run (buttonApp.generated.prepare (worldAfter 0 freshDisk).nextScratch)).2

theorem run_prepare_freshDisk :
    freshDisk.run (buttonApp.generated.prepare (worldAfter 0 freshDisk).nextScratch) =
      (.ok (), buttonDisk) :=
  Prod.ext (by decide +kernel) rfl

end AppBundle
