import AppBundle.Host.Program
import AppBundle.Proofs.Run.Lifetime

/-!
# Using bundles

A program makes bundles, executes them, calls the apps that run, and lets go of what it has, in any
order and with any outcome (`Usage.Step`). At all times the files of what it has are there, and once
it has let go of everything, the scratch folders that are left are those that its runs reported
(`Usage.tidy`).

A cache has to keep away from scratch folders for that: its own folder is not let go of, whatever
its name is (`Usage.untidy_markedCache`).
-/

namespace AppBundle

open Disk

/-- A program as a host needs a single file beside the payload. -/
theorem Peer.isName_files {σ : Type} (p : Peer σ) (permissions : List String) :
    ∀ f ∈ (p.host permissions).files, Path.IsName f.1 := by
  intro f hf
  rw [List.mem_singleton.mp hf]
  exact Path.isName_of_length (by decide)

/-- What a program has that uses bundles. -/
structure Usage where
  /-- The world. -/
  world : World
  /-- The runs so far, each with its options. -/
  runs : List (AssemblyOptions × BundleRun)
  /-- The bundles, each with the app that it was made of. -/
  bundles : List (App × Assembled)
  /-- The running apps, each with its bundle. -/
  apps : List (App × Assembled × RunningApp)

namespace Usage

/-- A program that has nothing yet. -/
def start (w : World) : Usage :=
  ⟨w, [], [], []⟩

/-- The folders that runs reported. -/
def reported (u : Usage) : List Path :=
  u.runs.filterMap (·.2.reported?)

/-- What is held for bundles. -/
def heldFor (bundles : List (App × Assembled)) : List Holding :=
  bundles.flatMap fun b => b.1.modulesOf b.2

/-- What is held. -/
def holdings (u : Usage) : List Holding :=
  u.reported.map (⟨·, []⟩) ++ (heldFor u.bundles ++ Assembled.held u.apps)

/-- What a program may do, with the options that are allowed for runs. -/
inductive Step (allowed : AssemblyOptions → World → Prop) : Usage → Usage → Prop where
  /-- It makes a bundle, or fails to. -/
  | assemble {u : Usage} (a : App) (o : AssemblyOptions) {t : Toolchain} (ht : t.Confined)
      (ho : allowed o u.world) {r : BundleRun} {w : World}
      (hrun : (a.assemble o t).run u.world = (r, w)) :
      Step allowed u ⟨w, (o, r) :: u.runs, a.made r ++ u.bundles, u.apps⟩
  /-- It gets a linked bundle from elsewhere. -/
  | bring {u : Usage} (a : App) {x : Assembled} (hx : x.artifacts = none) :
      Step allowed u { u with bundles := (a, x) :: u.bundles }
  /-- It executes a bundle. -/
  | execute {u : Usage} {front rest : List (App × Assembled)} {a : App} {x : Assembled} {σ : Type}
      (hbundles : u.bundles = front ++ (a, x) :: rest) (h : Host σ)
      (hnames : ∀ f ∈ h.files, Path.IsName f.1) (c : Context) (s : σ) {l : Launch} {s' : σ}
      {w : World} (hrun : ((x.execute h c).run s).run u.world = ((l, s'), w)) :
      Step allowed u ⟨w, u.runs, front ++ rest, x.started a l.result ++ u.apps⟩
  /-- It calls an app. -/
  | call {u : Usage} {front rest : List (App × Assembled × RunningApp)} {a : App} {x : Assembled}
      {app : RunningApp} {σ : Type} (happs : u.apps = front ++ (a, x, app) :: rest) (h : Host σ)
      (c : AppCall) (s : σ) :
      Step allowed u { u with apps := front ++ (a, x, ((app.call h c).run s).1.app) :: rest }
  /-- It lets go of a bundle. -/
  | dropBundle {u : Usage} {front rest : List (App × Assembled)} {a : App} {x : Assembled}
      (hbundles : u.bundles = front ++ (a, x) :: rest) :
      Step allowed u { u with world := (x.release.run u.world).2, bundles := front ++ rest }
  /-- It lets go of an app. -/
  | dropApp {u : Usage} {front rest : List (App × Assembled × RunningApp)} {a : App}
      {x : Assembled} {app : RunningApp} (happs : u.apps = front ++ (a, x, app) :: rest) :
      Step allowed u { u with world := (app.release.run u.world).2, apps := front ++ rest }
  /-- Time passes. -/
  | wait {u : Usage} (now : Int) : Step allowed u { u with world := { u.world with now } }

/-- What a program does step by step. -/
abbrev Steps (allowed : AssemblyOptions → World → Prop) : Usage → Usage → Prop :=
  Relation.ReflTransGen (Step allowed)

/-! ## Steps -/

/-- All scratch folders are held. -/
def Sound (w : World) (u : Usage) : Prop :=
  u.world.environment = w.environment ∧ Held w.scratchRoot w.disk u.holdings u.world.disk

variable {w : World} {u v : Usage}

theorem Sound.root (h : u.Sound w) : u.world.scratchRoot = w.scratchRoot := by
  rw [World.scratchRoot, h.1, World.scratchRoot]

theorem sound_start (w : World) : (start w).Sound w :=
  ⟨rfl, .nil _ _⟩

/-- Something in the middle is put to the front. -/
theorem perm_middle {α : Type} (xs ys zs front : List α) :
    (front ++ (ys ++ (xs ++ zs))).Perm (xs ++ (front ++ (ys ++ zs))) := by
  have hys : (ys ++ (xs ++ zs)).Perm (xs ++ (ys ++ zs)) := List.perm_append_comm_assoc ys xs zs
  exact (hys.append_left front).trans (List.perm_append_comm_assoc front xs (ys ++ zs))

theorem heldFor_append (bundles others : List (App × Assembled)) :
    heldFor (bundles ++ others) = heldFor bundles ++ heldFor others :=
  List.flatMap_append

theorem held_append (apps others : List (App × Assembled × RunningApp)) :
    Assembled.held (apps ++ others) = Assembled.held apps ++ Assembled.held others :=
  List.map_append

theorem held_cons (a : App) (x : Assembled) (app : RunningApp)
    (apps : List (App × Assembled × RunningApp)) :
    Assembled.held ((a, x, app) :: apps) = x.running a app :: Assembled.held apps := rfl

theorem reported_cons (o : AssemblyOptions) (r : BundleRun) (u : Usage) (w : World)
    (bundles : List (App × Assembled)) :
    reported ⟨w, (o, r) :: u.runs, bundles, u.apps⟩ = r.reported?.toList ++ u.reported := by
  rw [reported, List.filterMap_cons]
  cases r.reported? <;> rfl

/-- The folder of a bundle that the program has is held, and so are all others. -/
theorem holdings_perm_of_bundles {front rest : List (App × Assembled)} {a : App} {x : Assembled}
    (h : u.bundles = front ++ (a, x) :: rest) :
    u.holdings.Perm (a.modulesOf x ++ (u.reported.map (⟨·, []⟩) ++
      (heldFor (front ++ rest) ++ Assembled.held u.apps))) := by
  have hbundles : heldFor u.bundles = heldFor front ++ (a.modulesOf x ++ heldFor rest) := by
    rw [h, heldFor_append]
    rfl
  rw [holdings, hbundles, heldFor_append, List.append_assoc, List.append_assoc, List.append_assoc]
  exact perm_middle _ _ _ _

/-- The folder of an app that the program has is held, and so are all others. -/
theorem holdings_perm_of_apps {front rest : List (App × Assembled × RunningApp)} {a : App}
    {x : Assembled} {app : RunningApp} (h : u.apps = front ++ (a, x, app) :: rest) :
    u.holdings.Perm (x.running a app :: (u.reported.map (⟨·, []⟩) ++
      (heldFor u.bundles ++ Assembled.held (front ++ rest)))) := by
  have happs : Assembled.held u.apps =
      Assembled.held front ++ ([x.running a app] ++ Assembled.held rest) := by
    rw [h, held_append]
    rfl
  rw [holdings, happs, held_append, ← List.append_assoc (heldFor u.bundles),
    ← List.append_assoc (heldFor u.bundles)]
  exact perm_middle _ _ _ _

/-- Whatever a step comes to, all scratch folders are held behind it. -/
theorem Sound.step (h : u.Sound w) (hstep : Step AssemblyOptions.Clear u v) : v.Sound w := by
  have hroot := h.root
  obtain ⟨henvironment, hheld⟩ := h
  cases hstep with
  | assemble a o ht ho hrun =>
    rw [← hroot] at hheld
    obtain ⟨hmade, hsame⟩ := a.held_assemble ht ho hheld
    rw [hrun, hroot] at hmade
    rw [hrun] at hsame
    refine ⟨hsame.trans henvironment, hmade.perm ?_⟩
    -- what the run leaves is held in front of what was held
    rw [holdings, holdings, reported_cons, List.map_append, heldFor_append, App.leaves, List.append_assoc,
      List.append_assoc, List.append_assoc]
    exact (List.perm_append_comm_assoc _ _ _).append_left _
  | @bring a x hx =>
    refine ⟨henvironment, ?_⟩
    rw [holdings, heldFor, List.flatMap_cons, a.modulesOf_of_none hx]
    exact hheld
  | @execute front rest a x σ hbundles h hnames c s l s' w' hrun =>
    have hfront := hheld.perm (holdings_perm_of_bundles hbundles)
    rw [← hroot] at hfront
    obtain ⟨hsame, hbehind⟩ := x.held_execute h c s a hnames hfront
    rw [hrun] at hsame
    rw [hrun, hroot] at hbehind
    refine ⟨hsame.trans henvironment, hbehind.perm ?_⟩
    rw [holdings, held_append]
    exact (perm_middle _ _ _ _).symm
  | @call front rest a x app σ happs h c s =>
    -- no call changes the folder of its app
    have hcall : Assembled.running x a ((app.call h c).run s).1.app = x.running a app := by
      rw [Assembled.running, app.folder_call h c s, Assembled.running]
    have happs : Assembled.held (front ++ (a, x, ((app.call h c).run s).1.app) :: rest) =
        Assembled.held u.apps := by
      rw [happs, held_append, held_append, held_cons, held_cons, hcall]
    refine ⟨henvironment, ?_⟩
    rw [holdings, happs]
    exact hheld
  | @dropBundle front rest a x hbundles =>
    have hfront := hheld.perm (holdings_perm_of_bundles hbundles)
    rw [Assembled.release]
    cases hartifacts : x.artifacts with
    | none =>
      rw [a.modulesOf_of_none hartifacts] at hfront
      exact ⟨henvironment, hfront⟩
    | some folder =>
      rw [a.modulesOf_of_some hartifacts] at hfront
      exact ⟨(World.environment_without u.world folder).trans henvironment, hfront.without⟩
  | @dropApp front rest a x app happs =>
    have hfront := hheld.perm (holdings_perm_of_apps happs)
    exact ⟨(World.environment_without u.world app.folder).trans henvironment, hfront.without⟩
  | wait now => exact ⟨henvironment, hheld⟩

theorem sound_of_steps (h : Steps AssemblyOptions.Clear (start w) u) : u.Sound w := by
  induction h with
  | refl => exact sound_start w
  | tail _ hstep ih => exact ih.step hstep

/-- Each run reported a folder if it was to, and did. -/
def Reports (u : Usage) : Prop :=
  ∀ run ∈ u.runs, run.2.reported?.isSome ↔ run.1.debug = true ∧ run.2.Linked

theorem Reports.step {allowed : AssemblyOptions → World → Prop} (h : u.Reports)
    (hstep : Step allowed u v) : v.Reports := by
  cases hstep with
  | @assemble a o t ht ho r w' hrun =>
    have hreported := a.reported_iff o t u.world
    rw [hrun] at hreported
    exact List.forall_mem_cons.mpr ⟨hreported, h⟩
  | bring | execute | call | dropBundle | dropApp | wait => exact h

theorem reports_of_steps {allowed : AssemblyOptions → World → Prop}
    (h : Steps allowed (start w) u) : u.Reports := by
  induction h with
  | refl => exact fun run hrun => absurd hrun List.not_mem_nil
  | tail _ hstep ih => exact ih.step hstep

/-! ## What is there and what is left -/

/-- A program that began in the world has the files that it needs and leaves the folders that its runs
reported. -/
structure Tidy (w : World) (u : Usage) : Prop where
  /-- The modules of a bundle that is not linked are there as long as the program has the bundle. -/
  modules : ∀ {a x folder f}, (a, x) ∈ u.bundles → x.artifacts = some folder →
    f ∈ a.generated.files → u.world.disk.HasFile (folder.target [] ++ [f.1])
  /-- The payload of an app is there as long as the program has the app. -/
  payload : ∀ {a x app}, (a, x, app) ∈ u.apps →
    u.world.disk.HasFile (app.folder.target [] ++ [x.payloadName])
  /-- So are its modules if it is not linked. -/
  imported : ∀ {a x app f}, (a, x, app) ∈ u.apps → x.artifacts.isSome →
    f ∈ a.generated.files → u.world.disk.HasFile (app.folder.target [] ++ [f.1])
  /-- A run reports a folder if it links a bundle that is to be inspected. -/
  reports : u.Reports
  /-- No folder is reported twice. -/
  distinct : (u.reported.map (Path.target [])).Nodup
  /-- What is reported are new scratch folders. -/
  fresh : ∀ p ∈ u.reported, World.Marked w.scratchRoot (p.target []) ∧
    w.disk.get? (p.target []) ≠ some .folder
  /-- Once the program has let go of all that it had, these are left, and those that were there
  before. -/
  left : u.bundles = [] → u.apps = [] → ∀ q, World.Marked w.scratchRoot q →
    (u.world.disk.get? q = some .folder ↔
      w.disk.get? q = some .folder ∨ q ∈ u.reported.map (Path.target []))

theorem mem_holdings_of_bundle {a : App} {x : Assembled} {folder : Path}
    (h : (a, x) ∈ u.bundles) (hx : x.artifacts = some folder) :
    ⟨folder, a.generated.files.map (·.1)⟩ ∈ u.holdings := by
  refine List.mem_append_right _ (List.mem_append_left _ (List.mem_flatMap.mpr ⟨_, h, ?_⟩))
  simp [a.modulesOf_of_some hx]

theorem mem_holdings_of_app {a : App} {x : Assembled} {app : RunningApp}
    (h : (a, x, app) ∈ u.apps) : x.running a app ∈ u.holdings :=
  List.mem_append_right _ (List.mem_append_right _ (List.mem_map.mpr ⟨_, h, rfl⟩))

theorem mem_holdings_of_reported {p : Path} (h : p ∈ u.reported) : ⟨p, []⟩ ∈ u.holdings :=
  List.mem_append_left _ (List.mem_map.mpr ⟨p, h, rfl⟩)

theorem map_place_reported (u : Usage) :
    (u.reported.map fun p => Holding.mk p []).map Holding.place = u.reported.map (Path.target []) := by
  rw [List.map_map]
  rfl

theorem tidy_of_sound (h : u.Sound w) (hreports : u.Reports) : u.Tidy w where
  modules hbundle hartifacts hf :=
    h.2.files _ (mem_holdings_of_bundle hbundle hartifacts) _ (List.mem_map_of_mem hf)
  payload happ := h.2.files _ (mem_holdings_of_app happ) _ List.mem_cons_self
  imported {a x app f} happ hartifacts hf := by
    obtain ⟨folder, hfolder⟩ := Option.isSome_iff_exists.mp hartifacts
    refine h.2.files _ (mem_holdings_of_app happ) _ (List.mem_cons_of_mem _ ?_)
    rw [a.modulesOf_of_some hfolder]
    simpa using ⟨f.2, hf⟩
  reports := hreports
  distinct := by
    have hdistinct := h.2.distinct
    rw [holdings, List.map_append, map_place_reported] at hdistinct
    exact (List.nodup_append.mp hdistinct).1
  fresh p hp :=
    ⟨h.2.marked_place (mem_holdings_of_reported hp), (h.2.fresh _ (mem_holdings_of_reported hp)).1⟩
  left hbundles happs q hq := by
    have hmarked := h.2.marked q hq
    rw [holdings, hbundles, happs] at hmarked
    rw [hmarked, heldFor, Assembled.held, List.flatMap_nil, List.map_nil, List.append_nil,
      List.append_nil, map_place_reported]

/-- Programs are tidy, whatever comes of their runs, as long as caches keep away from scratch
folders. -/
theorem tidy (h : Steps AssemblyOptions.Clear (start w) u) : u.Tidy w :=
  tidy_of_sound (sound_of_steps h) (reports_of_steps h)

/-! ## One bundle -/

section

variable {allowed : AssemblyOptions → World → Prop} {a : App} {o : AssemblyOptions} {t : Toolchain}
  {r : BundleRun} {w' : World} {x : Assembled} {runs : List (AssemblyOptions × BundleRun)}

theorem made_of_result (h : r.result.toOption = some x) : a.made r = [(a, x)] := by
  cases hresult : r.result with
  | error e => simp [hresult, Except.toOption] at h
  | ok y =>
    obtain rfl : y = x := by simpa [hresult, Except.toOption] using h
    rw [App.made, hresult]

/-- A program makes a bundle. -/
theorem step_make (ht : t.Confined) (ho : allowed o w) (hrun : (a.assemble o t).run w = (r, w'))
    (hresult : r.result.toOption = some x) :
    Step allowed (start w) ⟨w', [(o, r)], [(a, x)], []⟩ := by
  have hstep := Step.assemble (u := start w) a o ht ho hrun
  rw [made_of_result hresult] at hstep
  exact hstep

/-- A program lets go of a linked bundle. -/
theorem step_drop (hlinked : x.artifacts = none) :
    Step allowed ⟨w, runs, [(a, x)], []⟩ ⟨w, runs, [], []⟩ := by
  have hstep := @Step.dropBundle allowed ⟨w, runs, [(a, x)], []⟩ [] [] a x rfl
  rw [Assembled.release, hlinked] at hstep
  exact hstep

/-- A program executes a bundle and lets go of the app, if it runs. -/
theorem steps_execute {σ : Type} (h : Host σ) (hnames : ∀ f ∈ h.files, Path.IsName f.1)
    (c : Context) (s : σ) :
    ∃ w', Steps allowed ⟨w, runs, [(a, x)], []⟩ ⟨w', runs, [], []⟩ := by
  rcases hrun : ((x.execute h c).run s).run w with ⟨⟨l, s'⟩, w'⟩
  have hexecute := @Step.execute allowed ⟨w, runs, [(a, x)], []⟩ [] [] a x σ rfl h hnames c s l s' w'
    hrun
  cases hresult : l.result with
  | error e =>
    rw [hresult] at hexecute
    exact ⟨w', .single hexecute⟩
  | ok app =>
    rw [hresult] at hexecute
    have hdrop := @Step.dropApp allowed ⟨w', runs, [], [(a, x, app)]⟩ [] [] a x app rfl
    exact ⟨_, (Relation.ReflTransGen.single hexecute).tail hdrop⟩

end

theorem scratchRoot_worldAfter (runs : Nat) (d : Disk) : (worldAfter runs d).scratchRoot = ["tmp"] := by
  show Path.ofText "/tmp" = ["tmp"]
  decide

theorem clear_cachingRun (runs : Nat) (d : Disk) : cachingRun.Clear (worldAfter runs d) := by
  rintro - q hq ⟨name, -, hname⟩
  have hfolder : (cachingRun.cacheAt (worldAfter runs d)).folder = ["cache"] := by
    have htext : Path.ofText "/cache" = ["cache"] := by decide
    simp [AssemblyOptions.cacheAt, cachingRun, htext]
  rw [hfolder] at hq
  rw [scratchRoot_worldAfter] at hname
  rw [hname] at hq
  simp [Path.way, Path.enter, Path.target, Path.isIdle] at hq

/-- There is no scratch folder on the disk. -/
theorem freshDisk_marked {q : Place} (hq : World.Marked ["tmp"] q) :
    freshDisk.get? q ≠ some .folder := by
  obtain ⟨name, -, rfl⟩ := hq
  simp [freshDisk, get?, Path.target, Path.isIdle]

theorem run_debug :
    ((buttonApp.assemble cachingRun sizeToolchain).run (worldAfter 0 freshDisk)).1.result.toOption.isSome ∧
      ((buttonApp.assemble cachingRun sizeToolchain).run (worldAfter 0 freshDisk)).1.reported? =
        some ["tmp", "melker-000000"] := by
  decide +kernel

/-- A bundle that is to be inspected is made and executed. Of this, one folder is left. -/
theorem tidy_debug : ∃ u, Steps AssemblyOptions.Clear (start (worldAfter 0 freshDisk)) u ∧
    u.bundles = [] ∧ u.apps = [] ∧ ∀ q, World.Marked ["tmp"] q →
      (u.world.disk.get? q = some .folder ↔ q = ["tmp", "melker-000000"]) := by
  obtain ⟨hresult, hreported⟩ := run_debug
  rcases hrun : (buttonApp.assemble cachingRun sizeToolchain).run (worldAfter 0 freshDisk) with
    ⟨r, w⟩
  rw [hrun] at hresult hreported
  obtain ⟨x, hx⟩ := Option.isSome_iff_exists.mp hresult
  have hmake := step_make confined_sizeToolchain (clear_cachingRun 0 freshDisk) hrun hx
  obtain ⟨w', hexecute⟩ := steps_execute (w := w) (a := buttonApp) (x := x)
    ((Peer.missing "deno").host []) ((Peer.missing "deno").isName_files []) ⟨[], "app", "/", none⟩
    (Dialogue.new ())
  have hsteps := hexecute.head hmake
  refine ⟨_, hsteps, rfl, rfl, fun q hq => ?_⟩
  have hleft := (tidy hsteps).left rfl rfl q (by rwa [scratchRoot_worldAfter])
  have hfolders : reported ⟨w', [(cachingRun, r)], [], []⟩ = [["tmp", "melker-000000"]] := by
    simp [reported, hreported]
  have htarget : Path.target [] ["tmp", "melker-000000"] = ["tmp", "melker-000000"] := by decide
  rw [hfolders, List.map_singleton, htarget, List.mem_singleton, worldAfter_disk,
    or_iff_right (freshDisk_marked hq)] at hleft
  exact hleft

/-! ## A cache among the scratch folders -/

/-- A run whose cache has the mark of scratch folders. -/
def markedCache : AssemblyOptions :=
  ⟨false, true, false, some "/tmp/melker-cache"⟩

theorem run_markedCache :
    ((buttonApp.assemble markedCache sizeToolchain).run (worldAfter 0 freshDisk)).1.result.toOption.map
        (·.artifacts) = some none ∧
      ((buttonApp.assemble markedCache sizeToolchain).run (worldAfter 0 freshDisk)).1.reported? =
        none ∧
      ((buttonApp.assemble markedCache sizeToolchain).run (worldAfter 0 freshDisk)).2.disk.get?
        ["tmp", "melker-cache"] = some .folder := by
  decide +kernel

/-- The folder of such a cache is left, though no run reported it. -/
theorem untidy_markedCache :
    ∃ u, Steps (fun _ _ => True) (start (worldAfter 0 freshDisk)) u ∧ u.bundles = [] ∧
      u.apps = [] ∧ u.reported = [] ∧ World.Marked ["tmp"] ["tmp", "melker-cache"] ∧
      freshDisk.get? ["tmp", "melker-cache"] ≠ some .folder ∧
      u.world.disk.get? ["tmp", "melker-cache"] = some .folder ∧
      ¬ u.Tidy (worldAfter 0 freshDisk) := by
  obtain ⟨hresult, hreported, hfolder⟩ := run_markedCache
  rcases hrun : (buttonApp.assemble markedCache sizeToolchain).run (worldAfter 0 freshDisk) with
    ⟨r, w'⟩
  rw [hrun] at hresult hreported hfolder
  obtain ⟨x, hx, hlinked⟩ := Option.map_eq_some_iff.mp hresult
  have hmake : Step (fun _ _ => True) (start (worldAfter 0 freshDisk)) _ :=
    step_make confined_sizeToolchain trivial hrun hx
  have hsteps := (Relation.ReflTransGen.single hmake).tail (step_drop hlinked)
  have hnone : reported ⟨w', [(markedCache, r)], [], []⟩ = [] := by simp [reported, hreported]
  have hmarked : World.Marked ["tmp"] ["tmp", "melker-cache"] := ⟨"melker-cache", by decide, by decide⟩
  have hnew := freshDisk_marked hmarked
  refine ⟨_, hsteps, rfl, rfl, hnone, hmarked, hnew, hfolder, fun htidy => ?_⟩
  have hleft := (htidy.left rfl rfl _ (by rwa [scratchRoot_worldAfter])).mp hfolder
  rw [hnone] at hleft
  rcases hleft with hbefore | hmem
  · exact hnew hbefore
  · exact absurd hmem List.not_mem_nil

end Usage

end AppBundle
