import AppBundle.Bundle.Assemble
import AppBundle.Proofs.Disk.Place
import AppBundle.Proofs.Entry.Parts
import AppBundle.Proofs.FileName

/-!
# The modules of an app

Every script that is kept in the app file has a module, and so has every script that runs at a fixed
moment. Files of modules are numbered, so no two modules share one: the origin of the lines of a
module is found by its file.
-/

namespace AppBundle

/-! ## Numbers of scripts -/

theorem numberLoaded_append (i j : Nat) (ss ts : List Script) :
    numberLoaded i j (ss ++ ts) = numberLoaded i j ss ++
      numberLoaded (i + ss.length) (j + ss.countP (·.reference = none)) ts := by
  induction ss generalizing i j with
  | nil => rfl
  | cons s ss ih =>
    rw [List.cons_append, numberLoaded, numberLoaded, List.length_cons]
    cases hr : s.reference with
    | some r => simp [hr, ih, Nat.add_assoc, Nat.add_comm 1]
    | none => simp [hr, ih, Nat.add_assoc, Nat.add_comm 1]

theorem numberMoments_append (i j : Nat) (ss ts : List Script) :
    numberMoments i j (ss ++ ts) = numberMoments i j ss ++
      numberMoments (i + ss.countP (·.kind = .init)) (j + ss.countP (·.kind = .ready)) ts := by
  induction ss generalizing i j with
  | nil => rfl
  | cons s ss ih =>
    rw [List.cons_append, numberMoments, numberMoments]
    cases hk : s.kind with
    | sync => simp [hk, ih]
    | init => simp [hk, ih, Nat.add_assoc, Nat.add_comm 1]
    | ready => simp [hk, ih, Nat.add_assoc, Nat.add_comm 1]

/-- Scripts kept in the app file are numbered apart. -/
theorem pairwise_inlineIndex (i j : Nat) (ss : List Script) :
    ((numberLoaded i j ss).filterMap (·.inlineIndex)).Pairwise (· < ·) ∧
      ∀ n ∈ (numberLoaded i j ss).filterMap (·.inlineIndex), j ≤ n := by
  induction ss generalizing i j with
  | nil => exact ⟨.nil, by simp [numberLoaded]⟩
  | cons s ss ih =>
    rw [numberLoaded]
    split
    · exact ih (i + 1) j
    · obtain ⟨hasc, hle⟩ := ih (i + 1) (j + 1)
      simp only [List.filterMap_cons]
      refine ⟨List.pairwise_cons.mpr ⟨fun n hn => hle n hn, hasc⟩, fun n hn => ?_⟩
      rcases List.mem_cons.mp hn with rfl | hn
      · exact Nat.le_refl _
      · exact Nat.le_of_succ_le (hle n hn)

/-- Scripts of one kind that run at fixed moments are numbered apart. -/
theorem pairwise_numberMoments (i j : Nat) (ss : List Script) :
    (numberMoments i j ss).Pairwise
        (fun m n => m.script.kind = n.script.kind → m.index < n.index) ∧
      ∀ m ∈ numberMoments i j ss, (m.script.kind = .init ∧ i ≤ m.index) ∨
        (m.script.kind = .ready ∧ j ≤ m.index) := by
  induction ss generalizing i j with
  | nil => exact ⟨.nil, by simp [numberMoments]⟩
  | cons s ss ih =>
    rw [numberMoments]
    split
    · exact ih i j
    · next hk =>
      obtain ⟨hasc, hle⟩ := ih (i + 1) j
      refine ⟨List.pairwise_cons.mpr ⟨fun m hm hsame => ?_, hasc⟩, fun m hm => ?_⟩
      · rcases hle m hm with ⟨-, h⟩ | ⟨h, -⟩
        · exact h
        · exact absurd (hsame.symm.trans hk) (by simp [h])
      · rcases List.mem_cons.mp hm with rfl | hm
        · exact .inl ⟨hk, Nat.le_refl i⟩
        · rcases hle m hm with ⟨h, hi⟩ | h
          · exact .inl ⟨h, by omega⟩
          · exact .inr h
    · next hk =>
      obtain ⟨hasc, hle⟩ := ih i (j + 1)
      refine ⟨List.pairwise_cons.mpr ⟨fun m hm hsame => ?_, hasc⟩, fun m hm => ?_⟩
      · rcases hle m hm with ⟨h, -⟩ | ⟨-, h⟩
        · exact absurd (hsame.symm.trans hk) (by simp [h])
        · exact h
      · rcases List.mem_cons.mp hm with rfl | hm
        · exact .inr ⟨hk, Nat.le_refl j⟩
        · rcases hle m hm with h | ⟨h, hj⟩
          · exact .inl h
          · exact .inr ⟨h, by omega⟩

/-! ## Files of modules -/

theorem slashFree_inlineFile (i : Nat) : SlashFree (inlineFile i) := by
  simp only [inlineFile, SlashFree.append_iff]
  exact ⟨⟨.ofChars (by decide), .decimal i⟩, .ofChars (by decide)⟩

theorem slashFree_momentFile (k : Timing) (i : Nat) : SlashFree (momentFile k i) := by
  have hword : SlashFree k.word := by cases k <;> exact .ofChars (by decide)
  simp only [momentFile, SlashFree.append_iff]
  exact ⟨⟨⟨⟨.ofChars (by decide), hword⟩, .ofChars (by decide)⟩, .decimal i⟩, .ofChars (by decide)⟩

theorem inlineFile_injective {i j : Nat} (h : inlineFile i = inlineFile j) : i = j := by
  refine decimal_injective (String.toList_inj.mp ?_)
  simpa [inlineFile] using congrArg String.toList h

theorem momentFile_injective {k : Timing} {i j : Nat} (h : momentFile k i = momentFile k j) :
    i = j := by
  refine decimal_injective (String.toList_inj.mp ?_)
  simpa [momentFile] using congrArg String.toList h

theorem inlineFile_ne_momentFile (i : Nat) (k : Timing) (hk : k ≠ .sync) (j : Nat) :
    inlineFile i ≠ momentFile k j := by
  intro h
  have htake := congrArg (fun s => s.toList.take 5) h
  cases k with
  | sync => exact hk rfl
  | init => simp [inlineFile, momentFile, Timing.word] at htake
  | ready => simp [inlineFile, momentFile, Timing.word] at htake

theorem momentFile_ne_momentFile {k l : Timing} (hkl : k ≠ l) (i j : Nat) :
    momentFile k i ≠ momentFile l j := by
  intro h
  have htake := congrArg (fun s => s.toList.take 2) h
  cases k <;> cases l <;> first
    | exact hkl rfl
    | simp [momentFile, Timing.word] at htake

@[simp] theorem Script.file_inlineModule (s : Script) (sourceId : String) (i : Nat) :
    (s.inlineModule sourceId i).2.file = inlineFile i := rfl

@[simp] theorem Script.file_momentModule (s : Script) (sourceId : String) (i : Nat) :
    (s.momentModule sourceId i).2.file = momentFile s.kind i := by
  unfold Script.momentModule
  split <;> rfl

/-- The origins of a module keep the line of its script. -/
theorem Script.line_momentModule (s : Script) (sourceId : String) (i : Nat) :
    (s.momentModule sourceId i).2.line = s.span.start.line := by
  unfold Script.momentModule
  split <;> rfl

/-- A module and the origin of its lines are in one file. -/
theorem Script.file_momentModule_fst (s : Script) (sourceId : String) (i : Nat) :
    (s.momentModule sourceId i).1.file = momentFile s.kind i := by
  unfold Script.momentModule
  split <;> rfl

namespace App

variable (a : App)

theorem files_eq :
    a.generated.origins.map (·.file) =
      (a.loaded.filterMap (·.inlineIndex)).map inlineFile ++
        a.moments.map fun m => momentFile m.script.kind m.index := by
  have hloaded : (a.loaded.filterMap (LoadedScript.module? a.sourceId)).map (·.2.file) =
      (a.loaded.filterMap (·.inlineIndex)).map inlineFile := by
    rw [List.map_filterMap, List.map_filterMap]
    refine congrArg (List.filterMap · a.loaded) (funext fun l => ?_)
    rw [LoadedScript.module?, Option.map_map]
    rfl
  show (a.modules.map (·.2)).map (·.file) = _
  rw [List.map_map, modules, List.map_append, List.map_map]
  refine congrArg₂ _ hloaded (List.map_congr_left fun m _ => ?_)
  exact m.script.file_momentModule a.sourceId m.index

theorem kind_of_mem_moments {m : MomentScript} (hm : m ∈ a.moments) : m.script.kind ≠ .sync := by
  rcases (pairwise_numberMoments 0 0 a.scripts).2 m hm with ⟨h, -⟩ | ⟨h, -⟩ <;> simp [h]

/-- No two modules are in one file. -/
theorem nodup_files : (a.generated.origins.map (·.file)).Nodup := by
  rw [files_eq, List.nodup_append]
  refine ⟨?_, ?_, ?_⟩
  · refine List.pairwise_map.mpr ((pairwise_inlineIndex 0 0 _).1.imp fun hlt heq => ?_)
    exact Nat.ne_of_lt hlt (inlineFile_injective heq)
  · refine List.pairwise_map.mpr ((pairwise_numberMoments 0 0 _).1.imp fun {m n} hmn heq => ?_)
    by_cases hkind : m.script.kind = n.script.kind
    · rw [hkind] at heq
      exact Nat.ne_of_lt (hmn hkind) (momentFile_injective heq)
    · exact momentFile_ne_momentFile hkind _ _ heq
  · intro f hf g hg
    obtain ⟨i, -, rfl⟩ := List.mem_map.mp hf
    obtain ⟨m, hm, rfl⟩ := List.mem_map.mp hg
    exact inlineFile_ne_momentFile i _ (a.kind_of_mem_moments hm) _

theorem slashFree_of_mem_origins {o : ModuleOrigin} (ho : o ∈ a.generated.origins) :
    SlashFree o.file := by
  have hfile := List.mem_map_of_mem (f := (·.file)) ho
  rw [files_eq] at hfile
  rcases List.mem_append.mp hfile with h | h
  · obtain ⟨i, -, hi⟩ := List.mem_map.mp h
    exact hi ▸ slashFree_inlineFile i
  · obtain ⟨m, -, hm⟩ := List.mem_map.mp h
    exact hm ▸ slashFree_momentFile _ _

/-- The files of all modules have the same ending. -/
theorem ending_of_mem_modules {m : Module} (hm : m ∈ a.generated.modules) :
    ∃ stem, m.file = stem ++ ".ts" := by
  obtain ⟨⟨m, o⟩, hmo, rfl⟩ := List.mem_map.mp hm
  rcases List.mem_append.mp hmo with hmo | hmo
  · obtain ⟨l, -, hl⟩ := List.mem_filterMap.mp hmo
    obtain ⟨i, -, hi⟩ := Option.map_eq_some_iff.mp hl
    exact ⟨"_inline_" ++ decimal i, congrArg (·.1.file) hi.symm⟩
  · obtain ⟨n, -, hn⟩ := List.mem_map.mp hmo
    have hfile := n.script.file_momentModule_fst a.sourceId n.index
    exact ⟨_, (congrArg (·.1.file) hn.symm).trans hfile⟩

/-- So has the entry. -/
theorem ending_of_mem_files {f : String × String} (hf : f ∈ a.generated.files) :
    ∃ stem, f.1 = stem ++ ".ts" := by
  rcases List.mem_append.mp hf with hf | hf
  · obtain ⟨m, hm, rfl⟩ := List.mem_map.mp hf
    exact a.ending_of_mem_modules hm
  · obtain rfl := List.mem_singleton.mp hf
    exact ⟨"_melker_entry", show entryFile = _ by decide⟩

theorem isName_of_mem_files {f : String × String} (hf : f ∈ a.generated.files) :
    Path.IsName f.1 := by
  obtain ⟨stem, hstem⟩ := a.ending_of_mem_files hf
  rw [hstem]
  exact Path.isName_append stem (by decide)

/-- The module of a script that stands behind others in the file. -/
def moduleBehind (before : List Script) (s : Script) : Module × ModuleOrigin :=
  match s.kind with
  | .sync =>
    s.inlineModule a.sourceId (before.countP fun b => b.kind = .sync ∧ b.reference = none)
  | kind => s.momentModule a.sourceId (before.countP (·.kind = kind))

variable {a} {before after : List Script} {s : Script}

theorem mem_loaded_of_split (hs : a.scripts = before ++ s :: after) (hk : s.kind = .sync)
    (hinline : s.reference = none) :
    ∃ n, (⟨s, n, some (before.countP fun b => b.kind = .sync ∧ b.reference = none)⟩ :
      LoadedScript) ∈ a.loaded := by
  have hsync : a.scriptsOf .sync =
      before.filter (·.kind = .sync) ++ s :: after.filter (·.kind = .sync) := by
    rw [scriptsOf, hs, List.filter_append, List.filter_cons_of_pos (by simp [hk])]
  have hcount : (before.filter (·.kind = .sync)).countP (·.reference = none) =
      before.countP fun b => b.kind = .sync ∧ b.reference = none := by
    rw [List.countP_filter]
    refine List.countP_congr fun b _ => ?_
    simp [and_comm]
  refine ⟨(before.filter (·.kind = .sync)).length, ?_⟩
  rw [loaded, hsync, numberLoaded_append, Nat.zero_add, Nat.zero_add, hcount]
  refine List.mem_append_right _ ?_
  rw [numberLoaded]
  simp only [hinline]
  exact List.mem_cons_self

theorem mem_moments_of_split (hs : a.scripts = before ++ s :: after) (hk : s.kind ≠ .sync) :
    (⟨s, before.countP (·.kind = s.kind)⟩ : MomentScript) ∈ a.moments := by
  rw [moments, hs, numberMoments_append, Nat.zero_add, Nat.zero_add]
  refine List.mem_append_right _ ?_
  rw [numberMoments]
  cases hkind : s.kind with
  | sync => exact absurd hkind hk
  | init => exact List.mem_cons_self
  | ready => exact List.mem_cons_self

/-- A script in the app file is generated as the module with its number. -/
theorem moduleBehind_mem (hs : a.scripts = before ++ s :: after) (hinline : s.reference = none) :
    a.moduleBehind before s ∈ a.modules := by
  rw [modules, List.mem_append, moduleBehind]
  split
  · next hk =>
    obtain ⟨n, hmem⟩ := mem_loaded_of_split hs hk hinline
    refine .inl (List.mem_filterMap.mpr ⟨_, hmem, ?_⟩)
    rw [LoadedScript.module?, Option.map_some]
  · next hk =>
    refine .inr (List.mem_map.mpr ⟨_, mem_moments_of_split hs hk, ?_⟩)
    rw [MomentScript.toModule]

@[simp] theorem line_moduleBehind : (a.moduleBehind before s).2.line = s.span.start.line := by
  unfold moduleBehind
  split
  · rfl
  · exact s.line_momentModule _ _

@[simp] theorem file_moduleBehind :
    (a.moduleBehind before s).1.file = (a.moduleBehind before s).2.file := by
  unfold moduleBehind
  split
  · rfl
  · rw [Script.file_momentModule_fst, Script.file_momentModule]

end App

end AppBundle
