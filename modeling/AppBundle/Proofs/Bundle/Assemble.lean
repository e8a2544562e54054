import AppBundle.Bundle.Assemble
import AppBundle.Proofs.Cache.Files
import AppBundle.Proofs.Disk.Alike
import AppBundle.Proofs.Except

/-!
# What bundle is made

If what a toolchain makes depends on its version, the generated files and the size of the code only,
the bundle of an app is a function of these (`App.bundleBy`): neither the disk nor the cache nor the
time makes a difference to a bundle that is made anew, unless the scratch folder is at fault
(`App.assembleAnew_result`).
-/

namespace AppBundle

open Disk

/-! ## Linkers -/

/-- What toolchains make of generated files: it depends on the version of the toolchain, the files
and whether the code is made small. -/
abbrev Linker := String → List (String × String) → Bool → Except AssemblyError LinkOutput

/-- A new folder with generated code in it. -/
def Generated.prepare (g : Generated) (folder : Path) : OnDisk Unit := do
  makeFolder folder
  g.writeTo folder

/-- A toolchain makes what the linker says of generated code in a folder of its own. -/
def Toolchain.Follows (t : Toolchain) (link : Linker) : Prop :=
  ∀ version, t.version = some version →
    ∀ (g : Generated) (folder : Path) (minify : Bool) (d e : Disk),
      d.run (g.prepare folder) = (.ok (), e) →
        ((t.bundle ⟨folder, minify⟩).run e).1 = link version g.files minify

/-- The path of the next scratch folder. -/
def World.nextScratch (w : World) : Path :=
  w.scratchRoot.child (scratchName w.scratches)

/-! ## Bundles -/

namespace App

variable (a : App) (o : AssemblyOptions) (t : Toolchain)

/-- The bundle of an app with the given code. -/
def bundleWith (code : String) (map : Option SourceMap) : Bundle where
  template := (spliceHandlers a.template a.handlers).text
  code := code
  lineTable := a.generated.lineTable
  sourceMap := map
  origins := a.generated.origins
  content := a.content
  sourceId := a.sourceId

/-- The bundle of an app that a toolchain of a version makes, if there is one. -/
def bundleBy (link : Linker) (minify : Bool) : Option String → Except AssemblyError Bundle
  | some version =>
    match link version a.generated.files minify with
    | .ok out => .ok (a.bundleWith out.code (readMap out.sourceMap).1)
    | .error e => .error (e.locate a.generated)
  | none =>
    match a.dependency? with
    | some site => .error (.noToolchain a.sourceId site.line site.specifier)
    | none => .ok (a.bundleWith a.generated.entry none)

theorem bundleBy_eq_ok {link : Linker} {minify : Bool} {version : Option String} {b : Bundle}
    (h : a.bundleBy link minify version = .ok b) : ∃ code map, b = a.bundleWith code map := by
  cases version with
  | none =>
    simp only [bundleBy] at h
    split at h
    · exact absurd h (by simp)
    · exact ⟨_, _, (Except.ok.inj h).symm⟩
  | some version =>
    simp only [bundleBy] at h
    split at h
    · exact ⟨_, _, (Except.ok.inj h).symm⟩
    · exact absurd h (by simp)

/-- The scratch folder of a run cannot be made, or the generated code cannot be written into it. -/
def ScratchFault (w : World) (f : DiskFault) : Prop :=
  (w.disk.run (a.generated.prepare w.nextScratch)).1 = .error f

end App

theorem World.run_makeScratch (w : World) :
    makeScratch.run w =
      match w.disk.run (makeFolder w.nextScratch) with
      | (.error f, disk) => (.error f, { w with disk })
      | (.ok (), disk) => (.ok w.nextScratch, { w with disk, scratches := w.scratches + 1 }) := by
  simp only [StateT.run, makeScratch, Disk.run, nextScratch]
  rcases attempt (makeFolder (w.scratchRoot.child (scratchName w.scratches))) w.disk with ⟨_ | _, d⟩
    <;> rfl

theorem Toolchain.run_link (t : Toolchain) (g : Generated) (folder : Path) (minify : Bool)
    (d : Disk) :
    (t.link g folder minify).run d =
      match d.run (g.writeTo folder) with
      | (.error f, e) => ((.error (.io f.message), none), e)
      | (.ok (), e) =>
        match t.version with
        | none => ((.ok ⟨g.entry, none, true, [unlinkedInfo], []⟩, none), e)
        | some _ =>
          match (t.bundle ⟨folder, minify⟩).run e with
          | (.error err, e') => ((.error (err.locate g), some ⟨folder, minify⟩), e')
          | (.ok out, e') =>
            ((.ok ⟨out.code, (readMap out.sourceMap).1, false,
              out.warnings.map .warning ++ (readMap out.sourceMap).2.1,
              (readMap out.sourceMap).2.2⟩, some ⟨folder, minify⟩), e') := by
  unfold Toolchain.link
  rw [run_attempt_bind]
  rcases d.run (g.writeTo folder) with ⟨f | _, e⟩
  · rfl
  · cases hversion : t.version with
    | none => rfl
    | some _ =>
      show StateT.run (t.bundle ⟨folder, minify⟩ >>= _) e = _
      rw [state_run_bind]
      rcases h : (t.bundle ⟨folder, minify⟩).run e with ⟨err | out, e'⟩ <;> simp only [h] <;> rfl

/-- What a toolchain links is what it answers to the request. -/
theorem Toolchain.link_eq_ok {t : Toolchain} {version : String}
    (hversion : t.version = some version) {g : Generated} {folder : Path} {minify : Bool}
    {d d' : Disk} {l : Linked} {request : Option LinkRequest}
    (h : (t.link g folder minify).run d = ((.ok l, request), d')) :
    ∃ e out, d.run (g.writeTo folder) = (.ok (), e) ∧
      (t.bundle ⟨folder, minify⟩).run e = (.ok out, d') ∧
      l.code = out.code ∧ l.sourceMap = (readMap out.sourceMap).1 ∧
      request = some ⟨folder, minify⟩ := by
  rw [t.run_link, hversion] at h
  rcases hwrite : d.run (g.writeTo folder) with ⟨f | ⟨⟨⟩⟩, e⟩ <;> rw [hwrite] at h
  · obtain ⟨herror, -⟩ := Prod.mk.inj (Prod.mk.inj h).1
    exact absurd herror (by simp)
  · dsimp only at h
    rcases hbundle : (t.bundle ⟨folder, minify⟩).run e with ⟨err | out, e'⟩ <;> rw [hbundle] at h
    · obtain ⟨herror, -⟩ := Prod.mk.inj (Prod.mk.inj h).1
      exact absurd herror (by simp)
    · obtain ⟨hlinked, rfl⟩ := Prod.mk.inj h
      obtain ⟨hok, rfl⟩ := Prod.mk.inj hlinked
      obtain rfl := Except.ok.inj hok
      exact ⟨e, out, rfl, hbundle, rfl, rfl, rfl⟩

/-- A toolchain is asked for code of the size that is asked for. -/
theorem Toolchain.minify_of_link (t : Toolchain) (g : Generated) (folder : Path) (minify : Bool)
    (d : Disk) : ∀ q ∈ ((t.link g folder minify).run d).1.2, q.minify = minify := by
  rw [t.run_link]
  rcases d.run (g.writeTo folder) with ⟨f | _, e⟩
  · simp
  · cases t.version with
    | none => simp
    | some version =>
      dsimp only
      rcases (t.bundle ⟨folder, minify⟩).run e with ⟨err | out, e'⟩ <;> simp

/-- Keeping a linked bundle writes its file. -/
theorem disk_keep (c : Cache) (version : String) (b : Bundle) (w : World) :
    ((keep (some c) (some version) true b).run w).2.disk =
      (w.disk.run (c.writeBundle b.sourceId b.content (b.toCached version w.now))).2 := by
  rw [← c.disk_save]
  unfold keep
  simp only [if_true]
  rw [state_run_bind, state_run_bind]
  rfl

/-! ## Scratch folders -/

theorem World.scratchName_ne (n : Nat) (key : String) : scratchName n ≠ key ++ ".json" := by
  intro h
  have hpoint : '.' ∈ (scratchName n).toList := by
    rw [h, String.toList_append]
    exact List.mem_append_right _ (by decide)
  simp only [scratchName, scratchMark, String.toList_append, String.toList_ofList,
    List.mem_append, List.mem_replicate] at hpoint
  rcases hpoint with hmark | ⟨-, hzero⟩ | hdigit
  · exact absurd hmark (by decide)
  · exact absurd hzero (by decide)
  · exact absurd (Text.isDigit_of_mem_numeral hdigit) (by decide)

theorem World.isName_scratchName (n : Nat) : Path.IsName (scratchName n) := by
  refine Path.isName_of_length ?_
  rw [scratchName, String.length_append]
  exact Nat.lt_add_right _ (by decide)

theorem World.target_nextScratch (w : World) :
    w.nextScratch.unclosed.target [] = w.scratchRoot.target [] ++ [scratchName w.scratches] := by
  have hname := isName_scratchName w.scratches
  rw [nextScratch, Path.unclosed_child _ hname, Path.target_child [] _ hname]

/-- Code is generated into a new folder whether a file stands elsewhere or not. -/
theorem Generated.ignores_prepare (g : Generated) {folder : Path} {p : Place}
    (h : folder.unclosed.target [] ≠ p) : Ignores p (g.prepare folder) :=
  (ignores_makeFolder h).bind fun _ => .forM fun _ => ignores_writeText _ _ _

namespace App

variable {a : App} {o : AssemblyOptions} {t : Toolchain} {link : Linker}

/-- What is made of the linked code, the world it leaves, and what is reported of it: the bundle does
not depend on the cache. -/
theorem run_assembleIn (a : App) (o : AssemblyOptions) (t : Toolchain) (cache : Option Cache)
    (folder : Path) (w : World) :
    ((a.assembleIn o t cache folder).run w).1.result.map (·.bundle) =
        ((t.link a.generated folder o.minify).run w.disk).1.1.map
          (fun l => a.bundleWith l.code l.sourceMap) ∧
      ((a.assembleIn o t cache folder).run w).2 =
        (match (t.link a.generated folder o.minify).run w.disk with
        | ((.error _, _), d) => ((World.dropScratch folder).run { w with disk := d }).2
        | ((.ok l, _), d) =>
          let w' := ((keep cache t.version (!l.needsModules)
            (a.bundleWith l.code l.sourceMap)).run { w with disk := d }).2
          if !l.needsModules && !(o.debug && !l.needsModules) then
            ((World.dropScratch folder).run w').2
          else w') ∧
      ((a.assembleIn o t cache folder).run w).1.request =
        ((t.link a.generated folder o.minify).run w.disk).1.2 ∧
      ∀ x, ((a.assembleIn o t cache folder).run w).1.result = .ok x → x.metadata.cached = false := by
  have hlink : (World.onDisk (t.link a.generated folder o.minify)).run w =
      (((t.link a.generated folder o.minify).run w.disk).1,
        { w with disk := ((t.link a.generated folder o.minify).run w.disk).2 }) := rfl
  unfold assembleIn bundleWith
  rw [state_run_bind, hlink]
  rcases (t.link a.generated folder o.minify).run w.disk with ⟨⟨err | l, request⟩, d⟩
  · refine ⟨rfl, rfl, rfl, fun x hx => ?_⟩
    have herror : (.error err : Except AssemblyError Assembled) = .ok x := hx
    exact absurd herror (by simp)
  · dsimp only
    rw [state_run_bind]
    rcases StateT.run (keep _ _ _ _) _ with ⟨⟨kept, keptLogs⟩, w'⟩
    dsimp only
    split
    all_goals
      refine ⟨rfl, rfl, rfl, fun x hx => ?_⟩
      obtain rfl := Except.ok.inj hx
      rfl

/-- An app that needs no toolchain or has one is bundled in a new scratch folder. -/
theorem run_assembleAnew (hdep : t.version = none → a.dependency? = none) (o : AssemblyOptions)
    (cache : Option Cache) (w : World) :
    (a.assembleAnew o t cache).run w =
      match w.disk.run (makeFolder w.nextScratch) with
      | (.error f, disk) => (⟨.error (.io f.message), none, []⟩, { w with disk })
      | (.ok (), disk) =>
        (a.assembleIn o t cache w.nextScratch).run
          { w with disk, scratches := w.scratches + 1 } := by
  unfold assembleAnew
  split
  · next site hsite hversion =>
    exact absurd (hdep hversion) (by simp [hsite])
  · rw [state_run_bind, World.run_makeScratch]
    rcases w.disk.run (makeFolder w.nextScratch) with ⟨f | _, d⟩ <;> rfl

/-- An app that needs a toolchain and has none is not bundled, and nothing changes. -/
theorem run_assembleAnew_of_dependency (hdep : ¬ (t.version = none → a.dependency? = none))
    (o : AssemblyOptions) (cache : Option Cache) (w : World) :
    ∃ e, (a.assembleAnew o t cache).run w = (⟨.error e, none, []⟩, w) := by
  rw [Classical.not_imp] at hdep
  obtain ⟨hversion, hsome⟩ := hdep
  obtain ⟨site, hsite⟩ := Option.ne_none_iff_exists'.mp hsome
  refine ⟨.noToolchain a.sourceId site.line site.specifier, ?_⟩
  unfold assembleAnew
  simp only [hversion, hsite]
  rfl

/-- The toolchain answers with this output when it is asked to link the app in the next scratch
folder. -/
def Links (a : App) (t : Toolchain) (w : World) (minify : Bool) (out : LinkOutput) : Prop :=
  ∃ d e, w.disk.run (a.generated.prepare w.nextScratch) = (.ok (), d) ∧
    (t.bundle ⟨w.nextScratch, minify⟩).run d = (.ok out, e)

/-- A bundle that is made anew is made of what the toolchain answers. -/
theorem links_of_assembleAnew {version : String} (hversion : t.version = some version)
    {cache : Option Cache} {w : World} {x : Assembled}
    (hx : ((a.assembleAnew o t cache).run w).1.result = .ok x) :
    ∃ out, a.Links t w o.minify out ∧
      x.bundle = a.bundleWith out.code (readMap out.sourceMap).1 := by
  have hdep : t.version = none → a.dependency? = none := by simp [hversion]
  rw [run_assembleAnew hdep] at hx
  rcases hfolder : w.disk.run (makeFolder w.nextScratch) with ⟨f | ⟨⟨⟩⟩, d⟩ <;> rw [hfolder] at hx
  · have herror : (.error (.io f.message) : Except AssemblyError Assembled) = .ok x := hx
    exact absurd herror (by simp)
  · have hbundle := (a.run_assembleIn o t cache w.nextScratch
      { w with disk := d, scratches := w.scratches + 1 }).1
    dsimp only at hx hbundle
    rw [hx] at hbundle
    rcases hl : (t.link a.generated w.nextScratch o.minify).run d with ⟨⟨_ | l, request⟩, d'⟩ <;>
      rw [hl] at hbundle
    · exact absurd hbundle (by simp [Except.map])
    · obtain ⟨e, out, hwrite, hout, hcode, hmap, -⟩ := Toolchain.link_eq_ok hversion hl
      refine ⟨out, ⟨e, d', ?_, hout⟩, ?_⟩
      · rw [Generated.prepare, run_bind, hfolder]
        exact hwrite
      · rw [← hcode, ← hmap]
        exact Except.ok.inj hbundle

/-- Where the toolchain answers, it was asked. -/
theorem request_of_links {version : String} (hversion : t.version = some version) {w : World}
    {out : LinkOutput} (h : a.Links t w o.minify out) (cache : Option Cache) :
    ((a.assembleAnew o t cache).run w).1.request = some ⟨w.nextScratch, o.minify⟩ := by
  obtain ⟨d, e, hprepare, hbundle⟩ := h
  obtain ⟨⟨⟩, d', hfolder, hwrite⟩ := run_bind_eq_ok.mp hprepare
  have hdep : t.version = none → a.dependency? = none := by simp [hversion]
  rw [run_assembleAnew hdep, hfolder]
  dsimp only
  rw [(a.run_assembleIn o t cache _ _).2.2.1, t.run_link, hwrite, hversion]
  simp only [hbundle]

/-- A bundle that is made anew is not said to come from the cache, and the toolchain was asked for
code of the size that the run is to give, if it was asked. -/
theorem report_assembleAnew (a : App) (o : AssemblyOptions) (t : Toolchain) (cache : Option Cache)
    (w : World) :
    (∀ x, ((a.assembleAnew o t cache).run w).1.result = .ok x → x.metadata.cached = false) ∧
      ∀ q ∈ ((a.assembleAnew o t cache).run w).1.request, q.minify = o.minify := by
  by_cases hdep : t.version = none → a.dependency? = none
  · rw [run_assembleAnew hdep]
    rcases w.disk.run (makeFolder w.nextScratch) with ⟨f | ⟨⟨⟩⟩, d⟩
    · exact ⟨fun x hx => absurd hx (by simp), by simp⟩
    · obtain ⟨-, -, hrequest, hcached⟩ := a.run_assembleIn o t cache w.nextScratch
        { w with disk := d, scratches := w.scratches + 1 }
      dsimp only at hrequest hcached ⊢
      rw [hrequest]
      exact ⟨hcached, t.minify_of_link a.generated w.nextScratch o.minify d⟩
  · obtain ⟨e, he⟩ := run_assembleAnew_of_dependency hdep o cache w
    rw [he]
    exact ⟨fun x hx => absurd hx (by simp), by simp⟩

/-! ## The cache -/

theorem run_assemble (a : App) (o : AssemblyOptions) (t : Toolchain) (w : World) :
    (a.assemble o t).run w =
      match o.cache w, t.version with
      | some c, some version =>
        match (c.find a.sourceId a.content version).run w.disk with
        | (.hit e, d) =>
          (⟨.ok (a.recalled e), none, (CacheAnswer.hit e).warnings⟩, { w with disk := d })
        | (.miss m, d) =>
          let r := (a.assembleAnew o t (some c)).run { w with disk := d }
          ({ r.1 with logs := (CacheAnswer.miss m).warnings ++ r.1.logs }, r.2)
      | _, _ => (a.assembleAnew o t (o.cache w)).run w := by
  unfold assemble
  rw [state_run_bind]
  have hget : (get : InWorld World).run w = (w, w) := rfl
  rw [hget]
  dsimp only
  rcases o.cache w with _ | c
  · rfl
  · rcases t.version with _ | version
    · rfl
    · have hfind : (World.onDisk (c.find a.sourceId a.content version)).run w =
          (((c.find a.sourceId a.content version).run w.disk).1,
            { w with disk := ((c.find a.sourceId a.content version).run w.disk).2 }) := rfl
      dsimp only
      rw [state_run_bind, hfind]
      rcases (c.find a.sourceId a.content version).run w.disk with ⟨e | m, d⟩
      · rfl
      · rfl

/-- A bundle that was kept is what the next run gives. -/
theorem assemble_of_writeBundle {a : App} {o : AssemblyOptions} {t : Toolchain} {w : World}
    {c : Cache} (hc : o.cache w = some c) {version : String} (hversion : t.version = some version)
    {b : Bundle} (hcontent : b.content = a.content) {now : Int}
    (hfits : (b.toCached version now).Fits) {d : Disk}
    (hkept : d.run (c.writeBundle a.sourceId a.content (b.toCached version now)) =
      (.ok (), w.disk)) :
    ((a.assemble o t).run w).1.result = .ok (a.recalled (b.toCached version now)) := by
  have hfind := c.find_of_writeBundle a.sourceId a.content version hfits hkept
  have hvalid : Cache.validate a.content version (b.toCached version now) =
      .hit (b.toCached version now) := by
    simp [Cache.validate, Bundle.toCached, hcontent]
  rw [run_assemble, hc, hversion]
  simp only [hfind, hvalid]

/-- A bundle that is made anew and left for inspection is kept in the cache. -/
theorem disk_assemble_of_debug {a : App} {o : AssemblyOptions} {t : Toolchain} {w : World}
    {c : Cache} (hc : o.cache w = some c) {version : String} (hversion : t.version = some version)
    (hdebug : o.debug = true)
    (habsent : w.disk.get? (c.place ++ [bundleName a.sourceId a.content]) = none)
    {d e : Disk} (hprepare : w.disk.run (a.generated.prepare w.nextScratch) = (.ok (), d))
    {out : LinkOutput} (hout : (t.bundle ⟨w.nextScratch, o.minify⟩).run d = (.ok out, e)) :
    ((a.assemble o t).run w).2.disk =
      (e.run (c.writeBundle a.sourceId a.content
        ((a.bundleWith out.code (readMap out.sourceMap).1).toCached version w.now))).2 := by
  obtain ⟨m, hmiss⟩ := c.find_of_absent a.sourceId a.content version habsent
  obtain ⟨⟨⟩, d', hfolder, hwrite⟩ := run_bind_eq_ok.mp hprepare
  have hdep : t.version = none → a.dependency? = none := by simp [hversion]
  rw [run_assemble, hc, hversion]
  simp only [hmiss]
  rw [run_assembleAnew hdep, hfolder]
  dsimp only
  rw [(a.run_assembleIn o t (some c) _ _).2.1, t.run_link, hwrite, hversion]
  simp only [hout, hdebug, Bool.not_false, Bool.and_self, Bool.not_true, Bool.and_false,
    Bool.false_eq_true, if_false]
  exact disk_keep ..

/-- The disk after the cache was asked, if the run uses one. -/
def lookedUp (a : App) (o : AssemblyOptions) (t : Toolchain) (w : World) : Disk :=
  match o.cache w, t.version with
  | some c, some version => ((c.find a.sourceId a.content version).run w.disk).2
  | _, _ => w.disk

/-- Asking the cache may take one of its files away. -/
theorem lookedUp_cases (a : App) (o : AssemblyOptions) (t : Toolchain) (w : World) :
    a.lookedUp o t w = w.disk ∨ ∃ folder : Place, ∃ key,
      w.disk.get? (folder ++ [key ++ ".json"]) ≠ some .folder ∧
        a.lookedUp o t w = w.disk.drop (folder ++ [key ++ ".json"]) := by
  unfold lookedUp
  rcases o.cache w with _ | c
  · exact .inl rfl
  · rcases t.version with _ | version
    · exact .inl rfl
    · rcases c.find_disk a.sourceId a.content version w.disk with hsame | ⟨hget, hd⟩
      · exact .inl hsame
      · exact .inr ⟨_, _, hget, hd⟩

/-- A run takes the bundle from the cache, or makes it anew when the cache was asked. -/
theorem run_assemble_cases (a : App) (o : AssemblyOptions) (t : Toolchain) (w : World) :
    (∃ c version e, o.cache w = some c ∧ t.version = some version ∧
      (c.find a.sourceId a.content version).run w.disk = (.hit e, a.lookedUp o t w) ∧
      (a.assemble o t).run w =
        (⟨.ok (a.recalled e), none, []⟩, { w with disk := a.lookedUp o t w })) ∨
    ∃ logs, (a.assemble o t).run w =
      ({ ((a.assembleAnew o t (o.cache w)).run { w with disk := a.lookedUp o t w }).1 with logs },
        ((a.assembleAnew o t (o.cache w)).run { w with disk := a.lookedUp o t w }).2) := by
  rw [run_assemble, lookedUp]
  rcases o.cache w with _ | c
  · exact .inr ⟨_, rfl⟩
  · rcases t.version with _ | version
    · exact .inr ⟨_, rfl⟩
    · rcases hfind : (c.find a.sourceId a.content version).run w.disk with ⟨e | m, d⟩
      · exact .inl ⟨c, version, e, rfl, rfl, by simp only [hfind], by simp only [hfind]; rfl⟩
      · exact .inr ⟨_, by simp only [hfind]; rfl⟩

end App

end AppBundle
