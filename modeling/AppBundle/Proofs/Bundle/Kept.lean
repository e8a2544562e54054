import AppBundle.Proofs.Bundle.Course
import AppBundle.Proofs.Cache.Holds

/-!
# What runs keep

Whatever fails in a run, it puts at most one bundle into the cache: the one of its app with the code
that its toolchain made of the generated modules, under the key of the app (`App.adds_assemble`).
-/

namespace AppBundle

open Disk

section Adds

variable {K : String → CachedBundle → Prop} {place : Place} {a : App} {o : AssemblyOptions}
  {t : Toolchain} {w : World} {cache : Option Cache}

theorem writes_writeTo (folder : Path) :
    Writes (NoBundle place) (a.generated.writeTo folder) := by
  refine .forM fun f hf => writes_writeText ?_
  obtain ⟨stem, hstem⟩ := a.ending_of_mem_files hf
  rw [hstem, Path.target_append_name [] folder (Path.isName_append stem (by decide))]
  exact noBundle_of_ending (x := 's') (by decide) (by decide) _

theorem adds_link (ht : ∀ r d, Adds (NoBundle place) d ((t.bundle r).run d).2)
    (folder : Path) (minify : Bool) (d : Disk) :
    Adds (NoBundle place) d ((t.link a.generated folder minify).run d).2 := by
  have hwrite : Adds (NoBundle place) d (d.run (a.generated.writeTo folder)).2 :=
    writes_writeTo folder d
  rw [t.run_link]
  rcases hrun : d.run (a.generated.writeTo folder) with ⟨f | _, e⟩ <;> rw [hrun] at hwrite
  · exact hwrite
  · cases hv : t.version with
    | none => exact hwrite
    | some v =>
      have hbundle := hwrite.trans (ht ⟨folder, minify⟩ e)
      rcases hrun' : (t.bundle ⟨folder, minify⟩).run e with ⟨err | out, e'⟩ <;>
        rw [hrun'] at hbundle <;> simp only [hrun'] <;> exact hbundle

theorem adds_dropScratch {N : Place → List UInt8 → Prop} (folder : Path) (w : World) :
    Adds N w.disk ((World.dropScratch folder).run w).2.disk := by
  show Adds N w.disk (w.without folder).disk
  rcases w.disk_without folder with hsame | ⟨-, hdrop⟩
  · rw [hsame]
    exact .refl _
  · rw [hdrop]
    exact adds_dropTree w.disk _

/-- A linked bundle is kept under the key of its app. -/
theorem adds_keep (hcache : ∀ c, cache = some c → c.place = place) {version : Option String}
    {linked : Bool} {b : Bundle} (w : World)
    (hK : ∀ v, version = some v → linked = true →
      K (bundleKey b.sourceId b.content) (b.toCached v w.now)) :
    Adds (KeptIn K place) w.disk ((keep cache version linked b).run w).2.disk := by
  rcases cache with _ | c
  · exact .refl _
  · rcases version with _ | v
    · exact .refl _
    · rcases linked with _ | _
      · exact .refl _
      · rw [disk_keep, ← hcache c rfl]
        exact c.writes_keptIn b.sourceId b.content (hK v rfl rfl) w.disk

/-- In a scratch folder a bundle is kept with the code that the toolchain makes there. -/
theorem adds_assembleIn (hcache : ∀ c, cache = some c → c.place = place)
    (hspares : ∀ r d, Adds (NoBundle place) d ((t.bundle r).run d).2) {folder : Path} {d : Disk}
    (hfolder : d.run (makeFolder folder) = (.ok (), w.disk))
    (hK : ∀ v out e e', t.version = some v →
      d.run (a.generated.prepare folder) = (.ok (), e) →
      (t.bundle ⟨folder, o.minify⟩).run e = (.ok out, e') →
        K (bundleKey a.sourceId a.content)
          ((a.bundleWith out.code (readMap out.sourceMap).1).toCached v w.now)) :
    Adds (KeptIn K place) w.disk ((a.assembleIn o t cache folder).run w).2.disk := by
  have hlink : Adds (KeptIn K place) w.disk
      ((t.link a.generated folder o.minify).run w.disk).2 :=
    (adds_link hspares folder o.minify w.disk).mono fun _ _ h => h.keptIn
  rw [(a.run_assembleIn o t cache folder w).2.1]
  rcases hl : (t.link a.generated folder o.minify).run w.disk with ⟨⟨_ | l, request⟩, d'⟩ <;>
    rw [hl] at hlink
  · exact hlink.trans (adds_dropScratch folder { w with disk := d' })
  · have hkeep : Adds (KeptIn K place) d' ((keep cache t.version (!l.needsModules)
        (a.bundleWith l.code l.sourceMap)).run { w with disk := d' }).2.disk := by
      refine adds_keep hcache { w with disk := d' } fun v hv _ => ?_
      obtain ⟨e, out, hwrite, hbundle, hcode, hmap, -⟩ := Toolchain.link_eq_ok hv hl
      rw [hcode, hmap]
      refine hK v out e d' hv ?_ hbundle
      rw [Generated.prepare, run_bind, hfolder]
      exact hwrite
    have hkept := hlink.trans hkeep
    dsimp only
    split
    · exact hkept.trans (adds_dropScratch folder _)
    · exact hkept

theorem adds_assembleAnew (hcache : ∀ c, cache = some c → c.place = place)
    (hspares : ∀ r d, Adds (NoBundle place) d ((t.bundle r).run d).2)
    (hK : ∀ v out, t.version = some v → a.Links t w o.minify out →
      K (bundleKey a.sourceId a.content)
        ((a.bundleWith out.code (readMap out.sourceMap).1).toCached v w.now)) :
    Adds (KeptIn K place) w.disk ((a.assembleAnew o t cache).run w).2.disk := by
  by_cases hdep : t.version = none → a.dependency? = none
  · have hscratch := writes_makeFolder (N := KeptIn K place) w.nextScratch w.disk
    rw [App.run_assembleAnew hdep]
    rcases hfolder : w.disk.run (makeFolder w.nextScratch) with ⟨f | _, e⟩ <;>
      rw [hfolder] at hscratch
    · exact hscratch
    · exact hscratch.trans (adds_assembleIn
        (w := { w with disk := e, scratches := w.scratches + 1 }) hcache hspares hfolder
        fun v out d d' hv hprepare hbundle => hK v out hv ⟨d, d', hprepare, hbundle⟩)
  · obtain ⟨e, he⟩ := App.run_assembleAnew_of_dependency hdep o cache w
    rw [he]
    exact .refl _

/-- A run adds no bundle to the cache but the one that it makes of its app, with the code that it
asks its toolchain for. -/
theorem App.adds_assemble (hcache : ∀ c, o.cache w = some c → c.place = place)
    (hspares : ∀ r d, Adds (NoBundle place) d ((t.bundle r).run d).2)
    (hK : ∀ v out, t.version = some v →
      a.Links t { w with disk := a.lookedUp o t w } o.minify out →
      ((a.assemble o t).run w).1.request = some ⟨w.nextScratch, o.minify⟩ →
        K (bundleKey a.sourceId a.content)
          ((a.bundleWith out.code (readMap out.sourceMap).1).toCached v w.now)) :
    Adds (KeptIn K place) w.disk ((a.assemble o t).run w).2.disk := by
  have hlooked : Adds (KeptIn K place) w.disk (a.lookedUp o t w) := by
    rcases a.lookedUp_cases o t w with h | ⟨folder, key, -, h⟩ <;> rw [h]
    · exact .refl _
    · exact adds_drop w.disk _
  rcases a.run_assemble_cases o t w with ⟨c, version, e, -, -, -, h⟩ | ⟨logs, h⟩
  · rw [h]
    exact hlooked
  · rw [h] at hK ⊢
    exact hlooked.trans (adds_assembleAnew (w := { w with disk := a.lookedUp o t w }) hcache hspares
      fun v out hv hlinks => hK v out hv hlinks (App.request_of_links hv hlinks (o.cache w)))

end Adds

end AppBundle
