import AppBundle.Proofs.Cache.Transparency

/-!
# The size of cached code

A run asks its toolchain for small code if it is to give small code. Neither the key of a bundle nor
the bundle itself says for which size it was asked, so a run that takes a bundle from the cache gives
code of the size that the run asked for which kept it (`RunHistory.makes`), be it the right one or
not (`cached_for_other_size`).
-/

namespace AppBundle

open Disk

/-! ## Runs -/

/-- A run of the bundler. -/
structure AssemblyRun where
  /-- The app that is bundled. -/
  app : App
  /-- What the user asks for. -/
  options : AssemblyOptions
  /-- The toolchain that is there. -/
  toolchain : Toolchain
  /-- The world in which the run starts. -/
  world : World

namespace AssemblyRun

variable (r : AssemblyRun)

/-- What the run gives, and the world it leaves. -/
def outcome : BundleRun × World :=
  (r.app.assemble r.options r.toolchain).run r.world

/-- The world after the cache was asked. -/
def lookedUp : World :=
  { r.world with disk := r.app.lookedUp r.options r.toolchain r.world }

/-- In the run the toolchain was asked for small code, or for code of any size, and answered with
this code. -/
def Makes (minify : Bool) (code : String) : Prop :=
  r.outcome.1.request = some ⟨r.world.nextScratch, minify⟩ ∧
    ∃ out, r.app.Links r.toolchain r.lookedUp minify out ∧ out.code = code

/-- The bundles of both runs stand under one key and are made by one version of the toolchain. -/
def Shares (r' : AssemblyRun) : Prop :=
  bundleKey r.app.sourceId r.app.content = bundleKey r'.app.sourceId r'.app.content ∧
    r.toolchain.version = r'.toolchain.version

/-- The bundle is one that the run made of its app, under the key. -/
def Keeps (key : String) (e : CachedBundle) : Prop :=
  bundleKey r.app.sourceId r.app.content = key ∧
    r.toolchain.version = some e.toolchainVersion ∧ r.Makes r.options.minify e.code

/-- The cache of the run, if it uses one, is at the place, and its toolchain puts no bundles there
itself. -/
structure Over (place : Place) : Prop where
  cache : ∀ c, r.options.cache r.world = some c → c.place = place
  spares : ∀ q d, Adds (NoBundle place) d ((r.toolchain.bundle q).run d).2

variable {r}

/-- Nothing but the size that the run is to give is asked for. -/
theorem Makes.minify {minify : Bool} {code : String} (h : r.Makes minify code) :
    minify = r.options.minify := by
  obtain ⟨hrequest, -⟩ := h
  rw [outcome] at hrequest
  rcases r.app.run_assemble_cases r.options r.toolchain r.world with
    ⟨c, version, e, -, -, -, hrun⟩ | ⟨logs, hrun⟩ <;> rw [hrun] at hrequest
  · exact absurd hrequest (by simp)
  · obtain ⟨-, hasked⟩ := r.app.report_assembleAnew r.options r.toolchain
      (r.options.cache r.world) r.lookedUp
    exact hasked _ hrequest

/-- For a bundle from the cache the toolchain is asked nothing. -/
theorem not_makes_of_cached {x : Assembled} (hx : r.outcome.1.result = .ok x)
    (hcached : x.metadata.cached = true) (minify : Bool) (code : String) :
    ¬ r.Makes minify code := by
  rintro ⟨hrequest, -⟩
  rw [outcome] at hx hrequest
  rcases r.app.run_assemble_cases r.options r.toolchain r.world with
    ⟨c, version, e, -, -, -, hrun⟩ | ⟨logs, hrun⟩ <;> rw [hrun] at hx hrequest
  · exact absurd hrequest (by simp)
  · obtain ⟨hnew, -⟩ := r.app.report_assembleAnew r.options r.toolchain
      (r.options.cache r.world) r.lookedUp
    rw [hnew x hx] at hcached
    exact absurd hcached (by simp)

theorem Over.adds {place : Place} (h : r.Over place) :
    Adds (KeptIn r.Keeps place) r.world.disk r.outcome.2.disk :=
  App.adds_assemble h.cache h.spares fun _ out hversion hlinks hrequest =>
    ⟨rfl, hversion, hrequest, out, hlinks, rfl⟩

end AssemblyRun

/-! ## Histories -/

/-- The runs over a cache that was empty at first, the last one first, and the disk they leave. They
may be asked for code of any size, and their toolchains may answer as they like. Between the runs
anything may happen to the disk except that files that hold bundles come into the cache. -/
inductive RunHistory (place : Place) : List AssemblyRun → Disk → Prop
  /-- Nothing stands in the cache. -/
  | empty {d : Disk} (hempty : ∀ name, d.get? (place ++ [name]) = none) : RunHistory place [] d
  /-- An app is bundled. -/
  | run {runs : List AssemblyRun} (r : AssemblyRun) (h : RunHistory place runs r.world.disk)
      (hrun : r.Over place) : RunHistory place (r :: runs) r.outcome.2.disk
  /-- Others change the disk. -/
  | change {runs : List AssemblyRun} {d d' : Disk} (h : RunHistory place runs d)
      (hchange : Adds (NoBundle place) d d') : RunHistory place runs d'

namespace RunHistory

variable {place : Place} {runs : List AssemblyRun} {r : AssemblyRun} {d : Disk}

/-- Every bundle in the cache was made by one of the runs. -/
theorem holds (h : RunHistory place runs d) :
    Holds (fun key e => ∃ r ∈ runs, r.Keeps key e) place d := by
  induction h with
  | empty hempty => exact holds_empty hempty
  | run r _ hrun ih =>
    refine (ih.mono ?_).adds (hrun.adds.mono fun _ _ hkept key e hp he => ?_)
    · rintro _ _ ⟨r', hr', hkeeps⟩
      exact ⟨r', List.mem_cons_of_mem r hr', hkeeps⟩
    · exact ⟨r, List.mem_cons_self, hkept key e hp he⟩
  | change _ hchange ih => exact ih.noBundle hchange

/-- The code of a new bundle was made in the run, of the size that the run is to give. The code of a
bundle from the cache was made in an earlier run, of the size that this one was to give. So the size
is right if all earlier runs under the key were to give it. -/
theorem makes (h : RunHistory place runs r.world.disk) (hrun : r.Over place) {version : String}
    (hversion : r.toolchain.version = some version) {x : Assembled}
    (hx : r.outcome.1.result = .ok x) :
    (x.metadata.cached = false → r.Makes r.options.minify x.bundle.code) ∧
    (x.metadata.cached = true →
      ∃ r' ∈ runs, r'.Shares r ∧ r'.Makes r'.options.minify x.bundle.code) ∧
    ((∀ r' ∈ runs, r'.Shares r → r'.options.minify = r.options.minify) →
      ∃ r' ∈ r :: runs, r'.Makes r.options.minify x.bundle.code) := by
  -- the last part follows whichever of the two it is
  suffices hboth : (x.metadata.cached = false ∧ r.Makes r.options.minify x.bundle.code) ∨
      (x.metadata.cached = true ∧
        ∃ r' ∈ runs, r'.Shares r ∧ r'.Makes r'.options.minify x.bundle.code) by
    rcases hboth with ⟨hnew, hmakes⟩ | ⟨hcached, r', hr', hshares, hmakes⟩
    · exact ⟨fun _ => hmakes, fun hcached => absurd (hnew.symm.trans hcached) (by simp),
        fun _ => ⟨r, List.mem_cons_self, hmakes⟩⟩
    · refine ⟨fun hnew => absurd (hnew.symm.trans hcached) (by simp),
        fun _ => ⟨r', hr', hshares, hmakes⟩, fun hsame => ⟨r', List.mem_cons_of_mem r hr', ?_⟩⟩
      rw [← hsame r' hr' hshares]
      exact hmakes
  have houtcome : r.outcome = (r.app.assemble r.options r.toolchain).run r.world := rfl
  rcases r.app.run_assemble_cases r.options r.toolchain r.world with
    ⟨c, version', e, hc, hversion', hfind, hhit⟩ | ⟨logs, hmiss⟩
  · -- the run that kept the bundle had this key and version, but the hit says nothing of its size
    rw [houtcome, hhit] at hx
    obtain rfl := Except.ok.inj hx
    have hholds := h.holds
    rw [← hrun.cache c hc] at hholds
    obtain ⟨⟨r', hr', hkey, hmade, hmakes⟩, -, he⟩ :=
      c.find_of_holds r.app.sourceId r.app.content hholds (congrArg Prod.fst hfind)
    refine .inr ⟨rfl, r', hr', ⟨hkey, ?_⟩, hmakes⟩
    rw [hmade, he, hversion']
  · have hresult := hx
    rw [houtcome, hmiss] at hresult
    obtain ⟨out, hlinks, hbundle⟩ := App.links_of_assembleAnew hversion hresult
    obtain ⟨hnew, -⟩ := r.app.report_assembleAnew r.options r.toolchain
      (r.options.cache r.world) r.lookedUp
    refine .inl ⟨hnew x hresult, ?_, out, hlinks, by rw [hbundle]; rfl⟩
    rw [houtcome, hmiss]
    exact App.request_of_links hversion hlinks (r.options.cache r.world)

end RunHistory

/-! ## Small code, and then code of any size -/

/-- A toolchain that tells what it was asked for. -/
def sizeToolchain : Toolchain where
  version := some "1"
  bundle r := return .ok ⟨if r.minify then "small" else "large", none, []⟩

/-- A run that is to give small code. -/
def smallRun (a : App) : AssemblyRun :=
  ⟨a, { cachingRun with minify := true }, sizeToolchain, worldAfter 0 freshDisk⟩

/-- A run after it that is to give other code. -/
def largeRun (a : App) : AssemblyRun :=
  ⟨a, cachingRun, sizeToolchain, worldAfter 1 (smallRun a).outcome.2.disk⟩

theorem outcome_largeRun (a : App) :
    (largeRun a).outcome = (a.assemble cachingRun sizeToolchain).run (largeRun a).world := rfl

theorem cachingRun_cache_minify (minify : Bool) (runs : Nat) (d : Disk) :
    { cachingRun with minify := minify : AssemblyOptions }.cache (worldAfter runs d) =
      some runCache :=
  cachingRun_cache runs d

theorem over_worldAfter (a : App) (minify : Bool) (runs : Nat) (d : Disk) :
    AssemblyRun.Over ⟨a, { cachingRun with minify := minify }, sizeToolchain, worldAfter runs d⟩
      ["cache"] where
  cache c hc := by
    rw [cachingRun_cache_minify] at hc
    obtain rfl := Option.some.inj hc
    decide
  spares _ d := .refl d

theorem history_largeRun (a : App) :
    RunHistory ["cache"] [smallRun a] (largeRun a).world.disk := by
  have hempty : ∀ name, freshDisk.get? (["cache"] ++ [name]) = none := by simp [freshDisk, get?]
  rw [largeRun, worldAfter_disk]
  exact .run (smallRun a) (.empty hempty) (over_worldAfter a true 0 freshDisk)

/-- The bundle that the first run makes. -/
def smallCached (a : App) : CachedBundle :=
  (a.bundleWith "small" none).toCached "1" 0

theorem fits_smallCached : (smallCached buttonApp).Fits where
  lineTable := by
    show buttonApp.generated.lineTable.Fits
    decide +kernel
  timestamp := by decide
  sourceMap := by simp [smallCached, Bundle.toCached, App.bundleWith]
  origins := by
    show ∀ o ∈ buttonApp.generated.origins, o.Fits
    decide +kernel

/-- The bundle of the first run kept in the cache. -/
def keepSmall : OnDisk Unit :=
  runCache.writeBundle buttonApp.sourceId buttonApp.content (smallCached buttonApp)

theorem run_keepSmall_ok : (buttonDisk.run keepSmall).1 = .ok () := by
  decide +kernel

theorem disk_largeRun : (largeRun buttonApp).world.disk = (buttonDisk.run keepSmall).2 := by
  have habsent : freshDisk.get? (runCache.place ++
      [bundleName buttonApp.sourceId buttonApp.content]) = none := by rfl
  have hout : (sizeToolchain.bundle ⟨(worldAfter 0 freshDisk).nextScratch, true⟩).run buttonDisk =
      (.ok ⟨"small", none, []⟩, buttonDisk) := rfl
  rw [largeRun, worldAfter_disk, AssemblyRun.outcome, smallRun]
  rw [App.disk_assemble_of_debug (cachingRun_cache_minify true 0 freshDisk) rfl rfl habsent
    run_prepare_freshDisk hout]
  rfl

theorem result_largeRun :
    (largeRun buttonApp).outcome.1.result = .ok (buttonApp.recalled (smallCached buttonApp)) := by
  have hkept : buttonDisk.run keepSmall = (.ok (), (largeRun buttonApp).world.disk) := by
    rw [disk_largeRun, ← run_keepSmall_ok]
  have hcache : cachingRun.cache (largeRun buttonApp).world = some runCache := cachingRun_cache 1 _
  have hversion : sizeToolchain.version = some "1" := rfl
  have hcontent : (buttonApp.bundleWith "small" none).content = buttonApp.content := rfl
  rw [outcome_largeRun]
  exact App.assemble_of_writeBundle hcache hversion hcontent fits_smallCached hkept

/-- The code of the second run was made in the first one, which was to give small code. -/
theorem largeRun_recalls :
    (largeRun buttonApp).toolchain.version = some "1" ∧
      (largeRun buttonApp).outcome.1.result = .ok (buttonApp.recalled (smallCached buttonApp)) ∧
      (smallRun buttonApp).Makes true "small" := by
  have hversion : (largeRun buttonApp).toolchain.version = some "1" := rfl
  have hover : (largeRun buttonApp).Over ["cache"] := over_worldAfter buttonApp false 1 _
  obtain ⟨-, hcached, -⟩ := (history_largeRun buttonApp).makes hover hversion result_largeRun
  obtain ⟨r, hr, -, hmakes⟩ := hcached rfl
  obtain rfl := List.mem_singleton.mp hr
  exact ⟨hversion, result_largeRun, hmakes⟩

/-- A run that is not to give small code gives the small code that was kept, and in no run was the
toolchain asked for that code otherwise. -/
theorem cached_for_other_size :
    RunHistory ["cache"] [smallRun buttonApp] (largeRun buttonApp).world.disk ∧
      (largeRun buttonApp).Over ["cache"] ∧ (largeRun buttonApp).options.minify = false ∧
      ∃ x, (largeRun buttonApp).outcome.1.result = .ok x ∧ x.bundle.code = "small" ∧
        ∀ r ∈ [largeRun buttonApp, smallRun buttonApp], ¬ r.Makes false x.bundle.code := by
  refine ⟨history_largeRun buttonApp, over_worldAfter buttonApp false 1 _, rfl, _, result_largeRun,
    rfl, ?_⟩
  intro r hr hmakes
  rcases List.mem_cons.mp hr with rfl | hr
  · exact AssemblyRun.not_makes_of_cached result_largeRun rfl false _ hmakes
  · obtain rfl := List.mem_singleton.mp hr
    have hminify : false = true := hmakes.minify
    exact absurd hminify (by decide)

end AppBundle
