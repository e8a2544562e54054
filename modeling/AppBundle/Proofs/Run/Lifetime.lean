import AppBundle.Proofs.Run.Holdings
import AppBundle.Proofs.Run.Session

/-!
# How long scratch folders last

A run that makes a bundle holds on to a scratch folder if the bundle is not linked or if the folder
is to be inspected, and lets go of it otherwise (`App.held_assemble`). A bundle that is executed
keeps its folder, or gets one, and lets go of it unless the app runs (`Assembled.held_execute`).
-/

namespace AppBundle

open Disk

variable {before : Disk} {xs : List Holding}

/-! ## Making bundles -/

/-- The path of the cache of a run leads neither to folders with the mark of scratch folders nor
through them. -/
def AssemblyOptions.Clear (o : AssemblyOptions) (w : World) : Prop :=
  o.caching = true → ∀ q ∈ (o.cacheAt w).folder.way [], ¬ World.Marked w.scratchRoot q

/-- The folder of the modules of an app that is not linked. -/
def App.modulesOf (a : App) (x : Assembled) : List Holding :=
  x.artifacts.toList.map (⟨·, a.generated.files.map (·.1)⟩)

theorem App.modulesOf_of_none (a : App) {x : Assembled} (h : x.artifacts = none) :
    a.modulesOf x = [] := by
  rw [modulesOf, h]
  rfl

theorem App.modulesOf_of_some (a : App) {x : Assembled} {folder : Path}
    (h : x.artifacts = some folder) :
    a.modulesOf x = [⟨folder, a.generated.files.map (·.1)⟩] := by
  rw [modulesOf, h]
  rfl

/-- The folder that a run reports. -/
def BundleRun.reported? (r : BundleRun) : Option Path :=
  match r.result with
  | .ok x => x.metadata.folder
  | .error _ => none

/-- The bundle of a run, if it makes one. -/
def App.made (a : App) (r : BundleRun) : List (App × Assembled) :=
  match r.result with
  | .ok x => [(a, x)]
  | .error _ => []

/-- What a run leaves to be held. -/
def App.leaves (a : App) (r : BundleRun) : List Holding :=
  r.reported?.toList.map (⟨·, []⟩) ++ (a.made r).flatMap fun b => b.1.modulesOf b.2

theorem App.leaves_linked (a : App) (o : AssemblyOptions) (version : String) (folder : Path)
    (out : LinkOutput) (kept : List Diagnostic) (request : Option LinkRequest) (logs : List String) :
    a.leaves ⟨.ok (a.linked o version folder out kept), request, logs⟩ =
      if o.debug then [⟨folder, []⟩] else [] := by
  cases hdebug : o.debug <;>
    simp [leaves, made, BundleRun.reported?, App.linked, App.report, App.modulesOf, hdebug]

section Cache

variable {a : App} {o : AssemblyOptions} {t : Toolchain} {w : World}

theorem AssemblyOptions.Clear.not_around (h : o.Clear w) (hcaching : o.caching = true)
    (name : String) (bytes : List UInt8) :
    ¬ Around w.scratchRoot [] ((o.cacheAt w).place ++ [name]) (.file bytes) := by
  rintro (⟨hfolder, -⟩ | ⟨m, hm, -, hprefix, hne⟩)
  · exact absurd hfolder (by simp)
  · rcases List.prefix_concat_iff.mp hprefix with heq | habove
    · exact hne heq.symm
    · exact h hcaching m (Path.mem_way_of_prefix (Path.target_mem_way [] _) habove) hm

theorem AssemblyOptions.Clear.frame_makeFolders (h : o.Clear w) (hcaching : o.caching = true) :
    Leads (Frame (Around w.scratchRoot []) (MarkedFolder w.scratchRoot))
      (makeFolders (o.cacheAt w).folder) := by
  refine leads_makeFolders (frame_makeFolder fun hmarked => ?_) fun q hq =>
    frame_makeFolder fun hmarked => ?_
  · exact h hcaching _ (Path.target_mem_way [] _) hmarked.1
  · have hfront := hq.trans (List.dropLast_prefix _)
    exact h hcaching _ (Path.target_mem_way_of_prefix hfront) hmarked.1

/-- Keeping a bundle makes no difference to scratch folders. -/
theorem AssemblyOptions.Clear.frame_writeBundle (h : o.Clear w) (hcaching : o.caching = true)
    (e : CachedBundle) :
    Leads (Frame (Around w.scratchRoot []) (MarkedFolder w.scratchRoot))
      ((o.cacheAt w).writeBundle a.sourceId a.content e) := by
  have hfile : ∀ q bytes, ¬ MarkedFolder w.scratchRoot q (.file bytes) :=
    fun q bytes hmarked => absurd hmarked.2 (by simp)
  obtain ⟨name, hdraft⟩ := (o.cacheAt w).target_draftPath a.sourceId a.content
  refine (o.cacheAt w).frame_writeBundle _ _ e (h.frame_makeFolders hcaching) ?_ (hfile _) ?_ (hfile _)
  · rw [hdraft]
    exact h.not_around hcaching _
  · rw [Cache.target_bundlePath]
    exact h.not_around hcaching _

/-- Looking for a bundle makes no difference to scratch folders. -/
theorem AssemblyOptions.Clear.frame_lookedUp (h : o.Clear w) :
    Frame (Around w.scratchRoot []) (MarkedFolder w.scratchRoot) w.disk (a.lookedUp o t w) := by
  rcases App.lookedUp_discards (a := a) (o := o) (t := t) (w := w) with
    ⟨⟨s, hs, -⟩, hget, hdrop⟩ | ⟨-, hsame⟩
  · have hcaching : o.caching = true := by
      rw [App.storedText?] at hs
      split at hs
      · next huses => exact huses.1
      · exact absurd hs (by simp)
    rw [hdrop]
    refine frame_drop (not_item_of_file hget ?_)
    rw [App.bundlePlace_eq]
    exact h.not_around hcaching _
  · rw [hsame]
    exact .refl _

end Cache

section Course

variable {a : App} {o : AssemblyOptions} {t : Toolchain} {cache : Option Cache} {w : World}
  {r : BundleRun × World}

theorem environment_keep (cache : Option Cache) (version : Option String) (linked : Bool)
    (b : Bundle) (w : World) : ((keep cache version linked b).run w).2.environment = w.environment := by
  rcases cache with _ | c
  · rfl
  · rcases version with _ | v
    · rfl
    · cases linked <;> rfl

theorem App.Course.environment (h : a.Course o t cache w r) : r.2.environment = w.environment := by
  cases h with
  | needy | homeless | unlinked => rfl
  | unwritten | failed => exact World.environment_without _ _
  | @linked d e e' version out kept keptLogs logs w' _ _ _ _ hkeep =>
    have hkept := environment_keep cache (some version) true (a.linkedBundle out) (w.scratched e')
    rw [hkeep] at hkept
    dsimp only
    split
    · exact hkept
    · exact (World.environment_without _ _).trans hkept

/-- The app is generated in a folder that is held. -/
theorem Held.generate {root folder : Path} {d d' : Disk} {x : Except DiskFault Unit}
    (h : Held root before (⟨folder, []⟩ :: xs) d)
    (hwrite : d.run (a.generated.writeTo folder) = (x, d')) :
    Held root before (⟨folder, []⟩ :: xs) d' ∧
      (x = .ok () → Held root before (⟨folder, a.generated.files.map (·.1)⟩ :: xs) d') := by
  have hframe : Leads (Frame (Around root (folder.target [])) (MarkedFolder root))
      (a.generated.writeTo folder) :=
    frame_writeTo a (h.beyond_around List.mem_cons_self) (h.beyond_markedFolder List.mem_cons_self)
  refine ⟨h.within (hframe.of_run hwrite) (by simp), ?_⟩
  rintro rfl
  refine h.within (hframe.of_run hwrite) fun f hf => ?_
  obtain ⟨file, hfile, rfl⟩ := List.mem_map.mp hf
  have hstands := hasFile_of_writes hwrite file hfile
  rwa [Path.target_append_name [] folder (a.isName_of_mem_files hfile)] at hstands

/-- A run that makes a bundle anew holds on to what its bundle needs and to what it reports. -/
theorem App.Course.held (hc : a.Course o t cache w r) (ht : t.Confined)
    (hcache : ∀ c e, cache = some c → Leads (Frame (Around w.scratchRoot [])
      (MarkedFolder w.scratchRoot)) (c.writeBundle a.sourceId a.content e))
    (h : Held w.scratchRoot before xs w.disk) :
    Held w.scratchRoot before (a.leaves r.1 ++ xs) r.2.disk := by
  have hmake : ∀ {d : Disk}, w.disk.run (makeFolder w.nextScratch) = (.ok (), d) →
      Held w.scratchRoot before (⟨w.nextScratch, []⟩ :: xs) d := fun hmake => h.make hmake
  -- the bundler keeps to the scratch folder that it is asked about
  have hasked : ∀ {e : Disk}, Held w.scratchRoot before (⟨w.nextScratch, []⟩ :: xs) e →
      Held w.scratchRoot before (⟨w.nextScratch, []⟩ :: xs)
        ((t.bundle ⟨w.nextScratch, o.minify⟩).run e).2 := by
    intro e he
    exact he.within (ht.frame (r := ⟨w.nextScratch, o.minify⟩) (he.beyond_around List.mem_cons_self)
      (he.beyond_markedFolder List.mem_cons_self) e) (by simp)
  cases hc with
  | needy => exact h
  | homeless => exact h
  | @unwritten d e f hmade hwritten =>
    exact ((hmake hmade).generate hwritten).1.without (w := w.scratched e)
  | unlinked _ hmade hwritten => exact ((hmake hmade).generate hwritten).2 rfl
  | @failed d e e' version err _ hmade hwritten hanswer =>
    have hanswered := hasked ((hmake hmade).generate hwritten).1
    rw [hanswer] at hanswered
    exact hanswered.without (w := w.scratched e')
  | @linked d e e' version out kept keptLogs logs w' _ hmade hwritten hanswer hkept =>
    have hanswered := hasked ((hmake hmade).generate hwritten).1
    rw [hanswer] at hanswered
    -- keeping the bundle makes and takes away no marked folder
    have hframe := leads_keep (R := Frame (Around w.scratchRoot []) (MarkedFolder w.scratchRoot))
      cache (w := w.scratched e') (b := a.linkedBundle out) (some version) true hcache
    rw [hkept] at hframe
    have hcached : Held w.scratchRoot before (⟨w.nextScratch, []⟩ :: xs) w'.disk :=
      hanswered.beside hframe
    rw [leaves_linked]
    -- a bundle that is to be inspected keeps its folder
    cases o.debug
    · exact hcached.without
    · exact hcached

/-- A run holds on to what its bundle needs and to what it reports. -/
theorem App.held_assemble (a : App) (ht : t.Confined) (hclear : o.Clear w)
    (h : Held w.scratchRoot before xs w.disk) :
    Held w.scratchRoot before (a.leaves ((a.assemble o t).run w).1 ++ xs)
        ((a.assemble o t).run w).2.disk ∧
      ((a.assemble o t).run w).2.environment = w.environment := by
  have hlooked := h.beside (hclear.frame_lookedUp (a := a) (t := t))
  rcases a.run_assemble_cases o t w with ⟨c, version, e, -, -, -, hrun⟩ | ⟨logs, hrun⟩
  · rw [hrun]
    exact ⟨hlooked, rfl⟩
  · have hcourse := course a o t (o.cache w) { w with disk := a.lookedUp o t w }
    have hcache : ∀ c e, o.cache w = some c → Leads (Frame (Around w.scratchRoot [])
        (MarkedFolder w.scratchRoot)) (c.writeBundle a.sourceId a.content e) := by
      intro c e hc
      obtain rfl := App.cacheAt_of_cache hc
      refine hclear.frame_writeBundle ?_ e
      by_contra hno
      rw [o.cache_eq, if_neg hno] at hc
      exact absurd hc (by simp)
    rw [hrun]
    exact ⟨hcourse.held ht hcache hlooked, hcourse.environment⟩

theorem App.Course.reported_iff (h : a.Course o t cache w r) :
    r.1.reported?.isSome ↔ o.debug = true ∧ r.1.Linked := by
  cases h with
  | needy | homeless | unwritten | failed => simp [BundleRun.reported?, BundleRun.Linked]
  | unlinked => simp [BundleRun.reported?, BundleRun.Linked, App.unlinked, App.report]
  | linked => simp [BundleRun.reported?, BundleRun.Linked, App.linked, App.report]

/-- A run reports a folder if it links a bundle that is to be inspected. -/
theorem App.reported_iff (a : App) (o : AssemblyOptions) (t : Toolchain) (w : World) :
    ((a.assemble o t).run w).1.reported?.isSome ↔
      o.debug = true ∧ ((a.assemble o t).run w).1.Linked := by
  rcases a.run_assemble_cases o t w with ⟨c, version, e, -, -, -, hrun⟩ | ⟨logs, hrun⟩
  · rw [hrun]
    simp [BundleRun.reported?, BundleRun.Linked, App.recalled]
  · rw [hrun]
    exact (course a o t (o.cache w) { w with disk := a.lookedUp o t w }).reported_iff

end Course

/-! ## Executing bundles -/

theorem World.run_onDisk {α : Type} (op : OnDisk α) (w : World) :
    (World.onDisk (attempt op)).run w =
      ((w.disk.run op).1, { w with disk := (w.disk.run op).2 }) := rfl

namespace RunningApp

variable {σ : Type} (app : RunningApp) (h : Host σ)

/-- An app that is started stays in its folder. -/
theorem folder_start (s : σ) : ((app.start h).run s).1.app.folder = app.folder := by
  rw [run_start]
  split
  · obtain ⟨locator, hsettle⟩ := app.app_settle .init ((h.invoke "init" none).run s).1
    show (app.settle .init ((h.invoke "init" none).run s).1).app.folder = _
    rw [hsettle]
  · rfl

/-- An app that is called stays in its folder. -/
theorem folder_call (c : AppCall) (s : σ) : ((app.call h c).run s).1.app.folder = app.folder := by
  obtain ⟨locator, hcall⟩ := app.app_call h c s
  rw [hcall]

end RunningApp

namespace Assembled

variable {σ : Type} {root folder : Path} {files : List String} {w : World} (x : Assembled)
  (h : Host σ) (c : Context) (s : σ)

theorem isName_payloadName : Path.IsName x.payloadName := by
  unfold payloadName
  split
  · exact Path.isName_of_length (by decide)
  · exact Path.isName_of_length (by decide)

/-- The folder of a bundle that is being executed is held, and the payload of an app that runs is in
it. -/
def Runs (root : Path) (before : Disk) (xs : List Holding) (folder : Path) (files : List String)
    (result : Except RunError RunningApp) (d : Disk) : Prop :=
  match result with
  | .error _ => ∃ files', Held root before (⟨folder, files'⟩ :: xs) d
  | .ok app => app.folder = folder ∧ Held root before (⟨folder, x.payloadName :: files⟩ :: xs) d

theorem loaded_ok {answer : Except HostFault (Option Registry)} {app : RunningApp}
    (h : (x.loaded folder answer).result = .ok app) : app.folder = folder := by
  rcases answer with (f | f | f | f) | (_ | r)
  case ok.some =>
    obtain rfl := Except.ok.inj h
    rfl
  case error.script =>
    rw [loaded] at h
    exact absurd h (by simp)
  all_goals exact absurd h (by simp [loaded])

theorem runs_load (hnames : ∀ f ∈ h.files, Path.IsName f.1)
    (hheld : Held root before (⟨folder, files⟩ :: xs) w.disk) :
    let r := ((x.load h c folder).run s).run w
    r.2.environment = w.environment ∧ x.Runs root before xs folder files r.1.1.result r.2.disk := by
  have hK : Beyond (Around root (folder.target [])) (folder.target []) :=
    hheld.beyond_around List.mem_cons_self
  have hL : Beyond (MarkedFolder root) (folder.target []) :=
    hheld.beyond_markedFolder List.mem_cons_self
  have hpayload := frame_writeIn x.isName_payloadName x.bundle.code hK hL
  rw [run_load, World.run_onDisk]
  rcases hrun : w.disk.run (writeText (folder ++ [x.payloadName]) x.bundle.code) with ⟨f | ⟨⟨⟩⟩, d⟩
  · exact ⟨rfl, _, hheld.work [] hpayload (keepsFiles_writeText _ _) hrun (by simp)⟩
  · have hwritten : ∀ f ∈ [x.payloadName], d.HasFile (folder.target [] ++ [f]) := by
      intro f hf
      rw [List.mem_singleton.mp hf, ← Path.target_append_name [] folder x.isName_payloadName]
      exact hasFile_of_writeText hrun
    -- the files of the host are written into the folder of the payload
    have hloading := hheld.work _ hpayload (keepsFiles_writeText _ _) hrun hwritten
    have hhost : Leads _ (h.writeFiles folder) := frame_writeFiles hnames hK hL
    have hkeeps : Leads KeepsFiles (h.writeFiles folder) :=
      .forM fun f _ => keepsFiles_writeText (folder ++ [f.1]) f.2
    dsimp only
    rw [World.run_onDisk]
    dsimp only
    rcases hrun' : d.run (h.writeFiles folder) with ⟨f | ⟨⟨⟩⟩, d'⟩
    · exact ⟨rfl, _, hloading.work [] hhost hkeeps hrun' (by simp)⟩
    · have hloaded := hloading.work [] hhost hkeeps hrun' (by simp)
      dsimp only
      rcases (h.load d' (folder ++ [x.payloadName]) c).run s with ⟨answer, s'⟩
      refine ⟨rfl, ?_⟩
      unfold Runs
      dsimp only
      split
      · exact ⟨_, hloaded⟩
      · next hok => exact ⟨x.loaded_ok hok, hloaded⟩

theorem runs_launch (hnames : ∀ f ∈ h.files, Path.IsName f.1)
    (hheld : Held root before (⟨folder, files⟩ :: xs) w.disk) :
    let r := ((x.launch h c folder).run s).run w
    r.2.environment = w.environment ∧ x.Runs root before xs folder files r.1.1.result r.2.disk := by
  have hload := x.runs_load h c s hnames hheld
  rw [run_launch]
  generalize ((x.load h c folder).run s).run w = out at hload ⊢
  obtain ⟨⟨⟨f | app, logs⟩, s'⟩, w'⟩ := out
  · exact hload
  · obtain ⟨henvironment, hfolder, hloaded⟩ := hload
    have hstart := app.folder_start h s'
    dsimp only
    generalize (app.start h).run s' = out at hstart ⊢
    obtain ⟨⟨f | ⟨⟨⟩⟩, app', logs'⟩, s''⟩ := out
    · exact ⟨henvironment, _, hloaded⟩
    · exact ⟨henvironment, hstart.trans hfolder, hloaded⟩

/-- What is held while an app runs: its folder with the payload, and with the modules if it is not
linked. -/
def running (a : App) (app : RunningApp) : Holding :=
  ⟨app.folder, x.payloadName :: (a.modulesOf x).flatMap (·.files)⟩

/-- The app that runs after a bundle was executed, if any, with the bundle. -/
def started (a : App) : Except RunError RunningApp → List (App × Assembled × RunningApp)
  | .error _ => []
  | .ok app => [(a, x, app)]

/-- What is held for running apps. -/
def held (apps : List (App × Assembled × RunningApp)) : List Holding :=
  apps.map fun (a, x, app) => x.running a app

/-- The world behind a launch: an app that does not run leaves no folder. -/
def settled (folder : Path) (out : (Launch × σ) × World) : (Launch × σ) × World :=
  match out.1.1.result with
  | .error _ => (out.1, out.2.without folder)
  | .ok _ => out

theorem held_launch (a : App) (hnames : ∀ f ∈ h.files, Path.IsName f.1)
    (hheld : Held root before (⟨folder, (a.modulesOf x).flatMap (·.files)⟩ :: xs) w.disk) :
    let out := settled folder (((x.launch h c folder).run s).run w)
    out.2.environment = w.environment ∧
      Held root before (held (x.started a out.1.1.result) ++ xs) out.2.disk := by
  have hlaunch := x.runs_launch h c s hnames hheld
  generalize ((x.launch h c folder).run s).run w = out at hlaunch ⊢
  obtain ⟨⟨⟨f | app, logs⟩, s'⟩, w'⟩ := out
  · obtain ⟨hsame, files', hdone⟩ := hlaunch
    exact ⟨(World.environment_without w' folder).trans hsame, hdone.without⟩
  · obtain ⟨hsame, rfl, hdone⟩ := hlaunch
    exact ⟨hsame, hdone⟩

theorem run_execute_settled :
    ((x.execute h c).run s).run w =
      match x.runFolder.run w with
      | (.error f, w) => ((⟨.error (.io f.message), []⟩, s), w)
      | (.ok folder, w) => settled folder (((x.launch h c folder).run s).run w) := by
  rw [run_execute]
  rcases x.runFolder.run w with ⟨f | folder, w'⟩
  · rfl
  · dsimp only
    generalize ((x.launch h c folder).run s).run w' = out
    obtain ⟨⟨⟨f | app, logs⟩, s'⟩, w''⟩ := out <;> rfl

/-- A bundle that is executed is let go of unless the app runs. -/
theorem held_execute (a : App) (hnames : ∀ f ∈ h.files, Path.IsName f.1)
    (hheld : Held w.scratchRoot before (a.modulesOf x ++ xs) w.disk) :
    let out := ((x.execute h c).run s).run w
    out.2.environment = w.environment ∧
      Held w.scratchRoot before (held (x.started a out.1.1.result) ++ xs) out.2.disk := by
  rw [run_execute_settled]
  cases hartifacts : x.artifacts with
  | some folder =>
    -- the app runs where its modules lie
    have hrun : x.runFolder.run w = (.ok folder, w) := by
      rw [runFolder, hartifacts]
      rfl
    have hmodules : a.modulesOf x = [⟨folder, (a.modulesOf x).flatMap (·.files)⟩] := by
      simp [a.modulesOf_of_some hartifacts]
    rw [hmodules] at hheld
    rw [hrun]
    exact x.held_launch h c s a hnames hheld
  | none =>
    -- the app is linked and runs in a folder of its own
    have hrun : x.runFolder.run w = World.makeScratch.run w := by
      rw [runFolder, hartifacts]
    have hmodules := a.modulesOf_of_none hartifacts
    rw [hmodules] at hheld
    rw [hrun, World.run_makeScratch]
    rcases hmake : w.disk.run (makeFolder w.nextScratch) with ⟨f | ⟨⟨⟩⟩, d⟩
    · rw [eq_of_makeFolder_error hmake]
      exact ⟨rfl, hheld⟩
    · have hmade : Held w.scratchRoot before
          (⟨w.nextScratch, (a.modulesOf x).flatMap (·.files)⟩ :: xs) (w.scratched d).disk := by
        rw [hmodules]
        exact hheld.make hmake
      exact x.held_launch h c s a hnames hmade

end Assembled

end AppBundle
