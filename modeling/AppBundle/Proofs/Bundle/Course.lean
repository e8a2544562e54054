import AppBundle.Proofs.Bundle.Assemble
import AppBundle.Proofs.Disk.Frame
import AppBundle.Proofs.Modules

/-!
# The course of a run

A run that makes a bundle anew takes one of six courses (`App.course`). It ends before it has a
scratch folder, or it cannot write into the folder, or it has no toolchain and holds on to the folder,
or the toolchain fails, or it links. What is true of all runs is proved by going through these.
-/

namespace AppBundle

open Disk

/-! ## What is made -/

/-- The world with another disk, on which one more scratch folder was made. -/
def World.scratched (w : World) (d : Disk) : World :=
  { w with disk := d, scratches := w.scratches + 1 }

/-- The world without a scratch folder. -/
def World.without (w : World) (folder : Path) : World :=
  ((World.dropScratch folder).run w).2

namespace App

variable (a : App) (o : AssemblyOptions)

/-- What is reported of a bundle that is made anew. -/
def report (version : Option String) (linking kept : List Diagnostic) (folder : Option Path) :
    Metadata where
  toolchainVersion := version
  cached := false
  modules := a.generated.modules.map (·.file)
  diagnostics := a.generated.diagnostics ++ linking
    ++ checkHandlers (spliceHandlers a.template a.handlers).text a.handlers ++ kept
  entry := if o.debug then some a.generated.entry else none
  folder := folder

/-- The app as it was generated into a folder. -/
def unlinked (folder : Path) : Assembled where
  bundle := a.bundleWith a.generated.entry none
  artifacts := some folder
  metadata := a.report o none [unlinkedInfo] [] none

/-- The bundle with what a toolchain of a version made of the app. -/
def linkedBundle (out : LinkOutput) : Bundle :=
  a.bundleWith out.code (readMap out.sourceMap).1

/-- The app as a toolchain linked it in a folder, with what there is to say about keeping it. -/
def linked (version : String) (folder : Path) (out : LinkOutput) (kept : List Diagnostic) :
    Assembled where
  bundle := a.linkedBundle out
  artifacts := none
  metadata := a.report o (some version)
    (out.warnings.map .warning ++ (readMap out.sourceMap).2.1) kept
    (if o.debug then some folder else none)

/-- How a run that makes a bundle anew goes: what it gives, and the world that it leaves. -/
inductive Course (t : Toolchain) (cache : Option Cache) (w : World) : BundleRun × World → Prop where
  /-- There is no toolchain for what the app imports. -/
  | needy {e : AssemblyError} (hversion : t.version = none) :
    Course t cache w (⟨.error e, none, []⟩, w)
  /-- No scratch folder can be made. -/
  | homeless {f : DiskFault} (hmake : w.disk.run (makeFolder w.nextScratch) = (.error f, w.disk)) :
    Course t cache w (⟨.error (.io f.message), none, []⟩, w)
  /-- The generated code cannot be written into the folder. -/
  | unwritten {d e : Disk} {f : DiskFault}
    (hmake : w.disk.run (makeFolder w.nextScratch) = (.ok (), d))
    (hwrite : d.run (a.generated.writeTo w.nextScratch) = (.error f, e)) :
    Course t cache w
      (⟨.error (.io f.message), none, []⟩, (w.scratched e).without w.nextScratch)
  /-- There is no toolchain, and the app runs as it was generated. -/
  | unlinked {d e : Disk} {logs : List String} (hversion : t.version = none)
    (hmake : w.disk.run (makeFolder w.nextScratch) = (.ok (), d))
    (hwrite : d.run (a.generated.writeTo w.nextScratch) = (.ok (), e)) :
    Course t cache w (⟨.ok (a.unlinked o w.nextScratch), none, logs⟩, w.scratched e)
  /-- The toolchain fails. -/
  | failed {d e e' : Disk} {version : String} {err : AssemblyError}
    (hversion : t.version = some version)
    (hmake : w.disk.run (makeFolder w.nextScratch) = (.ok (), d))
    (hwrite : d.run (a.generated.writeTo w.nextScratch) = (.ok (), e))
    (hbundle : (t.bundle ⟨w.nextScratch, o.minify⟩).run e = (.error err, e')) :
    Course t cache w
      (⟨.error (err.locate a.generated), some ⟨w.nextScratch, o.minify⟩, []⟩,
        (w.scratched e').without w.nextScratch)
  /-- The toolchain links the app. -/
  | linked {d e e' : Disk} {version : String} {out : LinkOutput} {kept : List Diagnostic}
    {keptLogs logs : List String} {w' : World} (hversion : t.version = some version)
    (hmake : w.disk.run (makeFolder w.nextScratch) = (.ok (), d))
    (hwrite : d.run (a.generated.writeTo w.nextScratch) = (.ok (), e))
    (hbundle : (t.bundle ⟨w.nextScratch, o.minify⟩).run e = (.ok out, e'))
    (hkeep : (keep cache (some version) true (a.linkedBundle out)).run (w.scratched e') =
      ((kept, keptLogs), w')) :
    Course t cache w
      (⟨.ok (a.linked o version w.nextScratch out kept), some ⟨w.nextScratch, o.minify⟩, logs⟩,
        if o.debug then w' else w'.without w.nextScratch)

variable {a o}

theorem run_keep_unlinked (cache : Option Cache) (version : Option String) (b : Bundle) (w : World) :
    (keep cache version false b).run w = (([], []), w) := by
  rcases cache with _ | c
  · rfl
  · rcases version with _ | v <;> rfl

theorem course_assembleIn {t : Toolchain} {cache : Option Cache} {w : World} {d : Disk}
    (hmake : w.disk.run (makeFolder w.nextScratch) = (.ok (), d)) :
    a.Course o t cache w ((a.assembleIn o t cache w.nextScratch).run (w.scratched d)) := by
  have hlink : (World.onDisk (t.link a.generated w.nextScratch o.minify)).run (w.scratched d) =
      (((t.link a.generated w.nextScratch o.minify).run d).1,
        w.scratched ((t.link a.generated w.nextScratch o.minify).run d).2) := rfl
  unfold assembleIn
  rw [state_run_bind, hlink, t.run_link]
  rcases hwrite : d.run (a.generated.writeTo w.nextScratch) with ⟨f | ⟨⟨⟩⟩, e⟩
  · -- the files are not written
    exact .unwritten hmake hwrite
  · cases hversion : t.version with
    | none =>
      dsimp only
      rw [state_run_bind, Bool.not_true, run_keep_unlinked]
      simp only [Bool.and_false, Bool.false_and, Bool.false_eq_true, if_false]
      exact .unlinked hversion hmake hwrite
    | some version =>
      dsimp only
      rcases hbundle : (t.bundle ⟨w.nextScratch, o.minify⟩).run e with ⟨err | out, e'⟩
      · exact .failed hversion hmake hwrite hbundle
      · dsimp only
        rw [state_run_bind, Bool.not_false]
        rcases hkeep : (keep cache (some version) true (a.linkedBundle out)).run (w.scratched e') with
          ⟨⟨kept, keptLogs⟩, w'⟩
        -- what the run gives depends on whether the bundle is to be inspected, its steps do not
        have hlinked := @Course.linked a o t cache w d e e' version out kept keptLogs
          ((readMap out.sourceMap).2.2 ++ (spliceHandlers a.template a.handlers).warnings ++ keptLogs)
          w' hversion hmake hwrite hbundle hkeep
        unfold linkedBundle bundleWith at hkeep
        rw [hkeep]
        cases hdebug : o.debug
        all_goals
          rw [App.linked, report, hdebug] at hlinked
          exact hlinked

/-- A run goes one of these ways. -/
theorem course (a : App) (o : AssemblyOptions) (t : Toolchain) (cache : Option Cache) (w : World) :
    a.Course o t cache w ((a.assembleAnew o t cache).run w) := by
  by_cases hdep : t.version = none → a.dependency? = none
  · rw [run_assembleAnew hdep]
    rcases hmake : w.disk.run (makeFolder w.nextScratch) with ⟨f | ⟨⟨⟩⟩, d⟩
    · obtain rfl := eq_of_makeFolder_error hmake
      exact .homeless hmake
    · exact course_assembleIn hmake
  · obtain ⟨hversion, hsome⟩ := Classical.not_imp.mp hdep
    obtain ⟨e, he⟩ := run_assembleAnew_of_dependency hdep o cache w
    rw [he]
    exact .needy hversion

end App

/-! ## What a run leaves alone -/

/-- The place lies in the folder. -/
def InFolder (folder q : Place) : Prop := folder <+: q ∧ q ≠ folder

/-- A toolchain changes only what lies in the folder of a request. -/
def Toolchain.Confined (t : Toolchain) : Prop :=
  ∀ r d q, ¬ InFolder (r.folder.target []) q → ((t.bundle r).run d).2.get? q = d.get? q

/-- The set holds nothing that lies in the folder. -/
def Beyond (K : Place → Item → Prop) (folder : Place) : Prop :=
  ∀ q i, InFolder folder q → ¬ K q i

/-- The set holds neither the folder nor anything in it. -/
def Apart (K : Place → Item → Prop) (folder : Place) : Prop :=
  ∀ q i, folder <+: q → ¬ K q i

theorem apart_filesAt {P : Place → Prop} {folder : Place} (h : ∀ q, folder <+: q → ¬ P q) :
    Apart (FilesAt P) folder := fun q i hq => not_filesAt (h q hq) i

theorem Apart.beyond {K : Place → Item → Prop} {folder : Place} (h : Apart K folder) :
    Beyond K folder := fun q i hq => h q i hq.1

theorem inFolder_concat (folder : Place) (name : String) : InFolder folder (folder ++ [name]) :=
  ⟨List.prefix_append _ _, by simp⟩

section Frame

variable {K L : Place → Item → Prop} {folder : Path}

/-- A file is written into a folder. -/
theorem frame_writeIn {file : String} (hname : Path.IsName file) (text : String)
    (hK : Beyond K (folder.target [])) (hL : Beyond L (folder.target [])) :
    Leads (Frame K L) (writeText (folder ++ [file]) text) := by
  have hplace : InFolder (folder.target []) ((folder ++ [file]).target []) := by
    rw [Path.target_append_name [] folder hname]
    exact inFolder_concat _ _
  exact frame_writeText text (fun _ => hK _ _ hplace) fun _ => hL _ _ hplace

/-- Files are written into a folder. -/
theorem frame_writeFiles {files : List (String × String)} (hnames : ∀ f ∈ files, Path.IsName f.1)
    (hK : Beyond K (folder.target [])) (hL : Beyond L (folder.target [])) :
    Leads (Frame K L) (files.forM fun (file, text) => writeText (folder ++ [file]) text) :=
  Leads.forM fun f hf => frame_writeIn (hnames f hf) f.2 hK hL

theorem frame_writeTo (a : App) (hK : Beyond K (folder.target []))
    (hL : Beyond L (folder.target [])) : Leads (Frame K L) (a.generated.writeTo folder) :=
  frame_writeFiles (fun _ => a.isName_of_mem_files) hK hL

theorem Toolchain.Confined.frame {t : Toolchain} (ht : t.Confined) {r : LinkRequest}
    (hK : Beyond K (r.folder.target [])) (hL : Beyond L (r.folder.target [])) (d : Disk) :
    Frame K L d ((t.bundle r).run d).2 where
  stays {q i} hKq hq := by
    rw [ht r d q fun hin => hK q i hin hKq]
    exact hq
  stood {q i} hLq hq := by
    rw [ht r d q fun hin => hL q i hin hLq] at hq
    exact hq

/-- A folder is taken away if its path leads there. -/
theorem World.without_of_place {w : World} {q : Place} (h : w.disk.place folder = .ok q) :
    w.without folder = { w with disk := w.disk.dropTree q } := by
  simp only [without, dropScratch, StateT.run_modify, h]
  rfl

theorem World.without_of_fault {w : World} {f : DiskFault} (h : w.disk.place folder = .error f) :
    w.without folder = w := by
  simp only [without, dropScratch, StateT.run_modify, h]
  rfl

theorem World.disk_without (w : World) (folder : Path) :
    (w.without folder).disk = w.disk ∨
      w.disk.place folder = .ok (folder.target []) ∧
        (w.without folder).disk = w.disk.dropTree (folder.target []) := by
  cases hplace : w.disk.place folder with
  | error f => exact .inl (by rw [without_of_fault hplace])
  | ok q =>
    obtain rfl := target_of_place hplace
    exact .inr ⟨rfl, by rw [without_of_place hplace]⟩

theorem World.environment_without (w : World) (folder : Path) :
    (w.without folder).environment = w.environment := by
  cases hplace : w.disk.place folder with
  | error f => rw [without_of_fault hplace]
  | ok q => rw [without_of_place hplace]

theorem World.frame_without (w : World) (hK : Apart K (folder.target [])) :
    Frame K L w.disk (w.without folder).disk := by
  rcases w.disk_without folder with hsame | ⟨-, hdrop⟩
  · rw [hsame]
    exact .refl _
  · rw [hdrop]
    exact frame_dropTree hK

end Frame

section Leads

variable {R : Disk → Disk → Prop} [IsPreorder Disk R] {a : App} {o : AssemblyOptions}
  {t : Toolchain} {cache : Option Cache} {w : World}

theorem leads_keep (cache : Option Cache) {b : Bundle} (version : Option String) (linked : Bool)
    (hcache : ∀ c e, cache = some c → Leads R (c.writeBundle b.sourceId b.content e)) :
    R w.disk ((keep cache version linked b).run w).2.disk := by
  rcases cache with _ | c
  · exact refl_of R _
  · rcases version with _ | v
    · exact refl_of R _
    · rcases linked with _ | _
      · exact refl_of R _
      · rw [disk_keep]
        exact hcache c _ rfl _

/-- The run gives a bundle that a toolchain linked for it. -/
def BundleRun.Linked (r : BundleRun) : Prop :=
  ∃ x, r.result = .ok x ∧ x.metadata.cached = false ∧ x.artifacts = none

/-- What all steps of a run keep is kept by the run. -/
theorem App.Course.leads {r : BundleRun × World} (h : a.Course o t cache w r)
    (hmake : Leads R (makeFolder w.nextScratch))
    (hwrite : Leads R (a.generated.writeTo w.nextScratch))
    (hbundle : ∀ d, R d ((t.bundle ⟨w.nextScratch, o.minify⟩).run d).2)
    (hwithout : ∀ v : World, R v.disk (v.without w.nextScratch).disk)
    (hkeep : r.1.Linked → ∀ c e, cache = some c →
      Leads R (c.writeBundle a.sourceId a.content e)) : R w.disk r.2.disk := by
  cases h with
  | needy => exact refl_of R _
  | homeless => exact refl_of R _
  | @unwritten d e f hmade hwritten =>
    have hdone := trans_of R (hmake.of_run hmade) (hwrite.of_run hwritten)
    exact trans_of R hdone (hwithout (w.scratched e))
  | unlinked _ hmade hwritten => exact trans_of R (hmake.of_run hmade) (hwrite.of_run hwritten)
  | @failed d e e' version err _ hmade hwritten hanswer =>
    have hdone := trans_of R (hmake.of_run hmade) (hwrite.of_run hwritten)
    have hasked := hbundle e
    rw [hanswer] at hasked
    exact trans_of R (trans_of R hdone hasked) (hwithout (w.scratched e'))
  | @linked d e e' version out kept keptLogs logs w' _ hmade hwritten hanswer hkept =>
    have hdone := trans_of R (hmake.of_run hmade) (hwrite.of_run hwritten)
    have hasked := hbundle e
    rw [hanswer] at hasked
    have hcached : R e' w'.disk := by
      have hled := leads_keep (R := R) cache (w := w.scratched e') (b := a.linkedBundle out)
        (some version) true (hkeep ⟨_, rfl, rfl, rfl⟩)
      rwa [hkept] at hled
    have hall := trans_of R (trans_of R hdone hasked) hcached
    dsimp only
    split
    · exact hall
    · exact trans_of R hall (hwithout w')

end Leads

end AppBundle
