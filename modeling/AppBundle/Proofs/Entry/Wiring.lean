import AppBundle.Bundle.Assemble
import AppBundle.Proofs.Code.Literal
import AppBundle.Proofs.Disk.Operations
import AppBundle.Proofs.Entry.ModuleText
import AppBundle.Proofs.Locator
import AppBundle.Proofs.Reference
import Mathlib.Data.List.Nodup

/-!
# How the entry and the modules are wired

Three counters number the scripts of an app: one for those that are loaded, one for those among them
that are kept in the app file, and one for each fixed moment. Here the part of the entry in front of
the handlers is written down from the scripts alone (`App.frontLines`), with the place of a script
among those of its kind in every name, and the entry and the modules are shown to have it
(`App.wired`).
-/

namespace AppBundle

/-- An import of the entry: what it binds, and the file or URL that it names. -/
structure EntryImport where
  /-- What it binds. -/
  clause : String
  /-- The file or URL that it names. -/
  target : String

/-- The line of an import. -/
def EntryImport.line (i : EntryImport) : String :=
  "import " ++ i.clause ++ " from " ++ Code.literal i.target ++ ";"

/-- What the import of a script that is loaded names. -/
def LoadedScript.target (sourceId : String) (l : LoadedScript) : String :=
  match l.inlineIndex with
  | some i => "./" ++ inlineFile i
  | none => absoluteReference sourceId (l.script.reference.getD "")

/-- An import names a target if it is that of a script kept outside with the target, or the file of
one kept in the app file. -/
theorem LoadedScript.count_target (sourceId x : String) (ls : List LoadedScript) :
    (ls.map (·.target sourceId)).count x =
      ls.countP (fun l => l.inlineIndex = none ∧ l.target sourceId = x)
        + ((ls.filterMap (·.inlineIndex)).map ("./" ++ inlineFile ·)).count x := by
  induction ls with
  | nil => rfl
  | cons l ls ih =>
    rw [List.map_cons, List.count_cons, ih, List.countP_cons]
    cases hi : l.inlineIndex with
    | none =>
      simp only [List.filterMap_cons, hi, true_and, beq_iff_eq, decide_eq_true_eq]
      omega
    | some i =>
      have htarget : l.target sourceId = "./" ++ inlineFile i := by simp [target, hi]
      simp only [List.filterMap_cons, hi, List.map_cons, List.count_cons, htarget, reduceCtorEq,
        false_and, decide_false, Bool.false_eq_true, if_false]
      omega

/-- When generated files with names of their own are written into a folder, each holds its own text
in the end. -/
theorem Generated.readText_of_writeTo {g : Generated} (hnodup : (g.files.map (·.1)).Nodup)
    (hnames : ∀ x ∈ g.files, Path.IsName x.1) {folder : Path} {d d' : Disk}
    (h : d.run (g.writeTo folder) = (.ok (), d')) :
    ∀ x ∈ g.files, d'.run (Disk.readText (folder ++ [x.1])) = (.ok x.2, d') := by
  have htargets : (g.files.map fun x => Path.target [] (folder ++ [x.1])).Nodup := by
    have hplaces : (g.files.map fun x => Path.target [] (folder ++ [x.1])) =
        (g.files.map (·.1)).map (Path.target [] folder ++ [·]) := by
      rw [List.map_map]
      refine List.map_congr_left fun x hx => ?_
      exact Path.target_append_name [] folder (hnames x hx)
    rw [hplaces]
    exact hnodup.map fun f g => Path.name_inj
  exact Disk.readText_of_writes htargets h

namespace App

variable (a : App)

/-! ## What the entry is to have -/

/-- The file of the `n`-th script that is loaded, if it is kept in the app file. -/
def loadedFile (n : Nat) : String :=
  inlineFile (a.inlineBefore n)

/-- What the import of the `n`-th script that is loaded names. -/
def loadedTarget (n : Nat) (s : Script) : String :=
  match s.reference with
  | some reference => absoluteReference a.sourceId reference
  | none => "./" ++ a.loadedFile n

/-- The imports of the scripts that are loaded, in the order of the file. -/
def loadedImports : List EntryImport :=
  (a.scriptsOf .sync).mapIdx fun n s => ⟨"* as __script_" ++ decimal n, a.loadedTarget n s⟩

/-- The calls that merge what these scripts export, in the same order. -/
def mergeCalls : List String :=
  (a.scriptsOf .sync).mapIdx fun n s =>
    "__melkerMergeExports($app, __script_" ++ decimal n ++ ", "
      ++ Code.literal (s.reference.getD (a.loadedFile n)) ++ ");"

/-- The imports of the scripts that run at fixed moments, in the order of the file, each with its
place among those of its moment. -/
def momentImports : List EntryImport :=
  (a.ordinals.filter (·.1.kind ≠ .sync)).map fun (s, n) =>
    ⟨"\x7b " ++ momentName s.kind n ++ " \x7d", "./" ++ momentFile s.kind n⟩

/-- The function that awaits the scripts of a moment in their order; none if there are none. -/
def awaiting (name : String) (kind : Timing) : List String :=
  if (a.scriptsOf kind).isEmpty then []
  else
    ("async function " ++ name ++ "() \x7b")
      :: (a.scriptsOf kind).mapIdx (fun n _ => "  await " ++ momentName kind n ++ "();")
      ++ ["\x7d"]

/-- The lines of the entry in front of the handlers. -/
def frontLines : List String :=
  (contextSection a.sourceId).map (·.text)
    ++ a.loadedImports.map (·.line)
    ++ (if (a.scriptsOf .sync).isEmpty then [] else mergeFunction ++ a.mergeCalls)
    ++ a.momentImports.map (·.line)
    ++ a.awaiting "__melkerInit" .init
    ++ a.awaiting "__melkerReady" .ready

/-- The lines of the entry from the first handler on. -/
def handlerLines : List CodeLine :=
  a.generatedHandlers.flatMap Handler.codeLines
    ++ registrySection (registryMembers a.moments a.generatedHandlers)

/-! ## What it has -/

theorem plain_inlineFile (i : Nat) : Plain ("./" ++ inlineFile i) := by
  rw [inlineFile]
  simp only [Plain.append_iff]
  exact ⟨.ofChars (by decide), ⟨.ofChars (by decide), .decimal i⟩, .ofChars (by decide)⟩

theorem plain_momentFile (k : Timing) (i : Nat) : Plain ("./" ++ momentFile k i) := by
  have hword : Plain k.word := by cases k <;> exact .ofChars (by decide)
  rw [momentFile]
  simp only [Plain.append_iff]
  exact ⟨.ofChars (by decide), ⟨⟨⟨.ofChars (by decide), hword⟩, .ofChars (by decide)⟩, .decimal i⟩,
    .ofChars (by decide)⟩

/-- The import of a script that is loaded, kept in the app file or outside. -/
theorem importLine_loaded (n : Nat) (s : Script) :
    (LoadedScript.importLine a.sourceId
        ⟨s, n, if s.reference = none then some (a.inlineBefore n) else none⟩).text =
      EntryImport.line ⟨"* as __script_" ++ decimal n, a.loadedTarget n s⟩ := by
  rw [← String.toList_inj]
  cases hr : s.reference with
  | none =>
    simp [LoadedScript.importLine, Script.codeLine, LoadedScript.binding, EntryImport.line,
      loadedTarget, hr, loadedFile, (plain_inlineFile _).literal]
  | some reference =>
    simp [LoadedScript.importLine, Script.codeLine, LoadedScript.binding, hr, importAll,
      EntryImport.line, loadedTarget]

theorem map_loadedImport :
    a.loaded.map (fun l => (l.importLine a.sourceId).text) = a.loadedImports.map (·.line) := by
  refine List.ext_getElem? fun n => ?_
  simp only [loaded_eq_mapIdx, loadedImports, List.getElem?_map, List.getElem?_mapIdx,
    Option.map_map, Function.comp_def, importLine_loaded]

theorem map_mergeLine : a.loaded.map (fun l => l.mergeLine.text) = a.mergeCalls := by
  refine List.ext_getElem? fun n => ?_
  simp only [loaded_eq_mapIdx, mergeCalls, List.getElem?_map, List.getElem?_mapIdx, Option.map_map]
  refine congrArg (Option.map · _) (funext fun s => ?_)
  rw [← String.toList_inj]
  cases hr : s.reference with
  | none =>
    simp [LoadedScript.mergeLine, Script.codeLine, LoadedScript.binding, LoadedScript.label, hr,
      inlineFile, loadedFile]
  | some reference =>
    simp [LoadedScript.mergeLine, Script.codeLine, LoadedScript.binding, LoadedScript.label, hr]

theorem map_momentImport : a.moments.map (·.importLine.text) = a.momentImports.map (·.line) := by
  rw [moments_eq_ordinals, momentImports, List.map_map, List.map_map]
  refine List.map_congr_left fun ⟨s, n⟩ _ => ?_
  rw [← String.toList_inj]
  simp [MomentScript.importLine, Script.codeLine, EntryImport.line, (plain_momentFile _ _).literal]

theorem map_awaitSection (name : String) {kind : Timing} (hk : kind ≠ .sync) :
    (awaitSection name (a.moments.filter (·.script.kind = kind))).map (·.text) =
      a.awaiting name kind := by
  have hlines : (a.moments.filter (·.script.kind = kind)).map (·.awaitLine.text) =
      (a.scriptsOf kind).mapIdx fun n _ => "  await " ++ momentName kind n ++ "();" := by
    rw [a.filter_moments_eq_mapIdx hk]
    refine List.ext_getElem? fun n => ?_
    rw [List.getElem?_map, List.getElem?_mapIdx, List.getElem?_mapIdx, Option.map_map]
    refine Option.map_congr fun s hs => ?_
    have hkind : s.kind = kind := of_decide_eq_true (List.mem_filter.mp (List.mem_of_getElem? hs)).2
    simp only [Function.comp_apply, MomentScript.awaitLine, Script.codeLine, hkind]
  have hempty : (a.moments.filter (·.script.kind = kind)).isEmpty = (a.scriptsOf kind).isEmpty := by
    rw [← a.map_script_filter_moments hk, List.isEmpty_map]
  rw [awaitSection, awaiting, hempty]
  split
  · rfl
  · rw [List.map_append, List.map_cons, List.map_map, ← hlines]
    rfl

theorem map_mergeSection :
    (mergeSection a.loaded).map (·.text) =
      if (a.scriptsOf .sync).isEmpty then [] else mergeFunction ++ a.mergeCalls := by
  have hempty : a.loaded.isEmpty = (a.scriptsOf .sync).isEmpty := by
    rw [← a.map_script_loaded, List.isEmpty_map]
  rw [mergeSection, hempty]
  split
  · rfl
  · rw [List.map_append, List.map_map, List.map_map, ← a.map_mergeLine]
    congr 1

/-- The lines of the entry in front of the handlers are those that it is to have. -/
theorem map_scriptLines : a.scriptLines.map (·.text) = a.frontLines := by
  simp only [scriptLines, List.map_append, List.map_map, Function.comp_def, a.map_mergeSection,
    a.map_loadedImport, a.map_momentImport, frontLines]
  rw [← a.map_awaitSection "__melkerInit" (show Timing.init ≠ .sync by decide),
    ← a.map_awaitSection "__melkerReady" (show Timing.ready ≠ .sync by decide)]
  rfl

theorem frontLines_eq : a.frontLines = a.leadingLines.map (·.text a.sourceId) := by
  rw [← map_scriptLines, scriptLines_eq, List.map_map]
  rfl

theorem toList_entry :
    a.generated.entry.toList =
      Text.unlines (a.frontLines.map String.toList) ++ (entryText a.handlerLines).toList := by
  show (entryText a.codeLines).toList = _
  have hlines : a.codeLines = a.scriptLines ++ a.handlerLines := List.append_assoc _ _ _
  rw [entryText, entryText, String.toList_ofList, String.toList_ofList, hlines, List.map_append,
    Text.unlines_append, ← map_scriptLines, List.map_map]
  rfl

/-- The entry begins with these lines; what follows are the lines from the first handler on. -/
theorem pieces_entry_front :
    Text.pieces a.generated.entry.toList =
      a.frontLines.map String.toList ++ Text.pieces (entryText a.handlerLines).toList := by
  have honeLine : ∀ l ∈ a.frontLines.map String.toList, '\n' ∉ l := by
    intro cs hcs
    obtain ⟨s, hs, rfl⟩ := List.mem_map.mp hcs
    rw [frontLines_eq] at hs
    obtain ⟨l, hl, rfl⟩ := List.mem_map.mp hs
    exact oneLine_of_mem_leadingLines hl
  rw [toList_entry, Text.pieces_unlines_append honeLine]

/-! ## Modules -/

theorem exists_toModule_of_mem {p : Module × ModuleOrigin} (hp : p ∈ a.modules) :
    ∃ (s : Script) (file : String) (header : List String) (code : String)
      (footer : Option String), p = s.toModule file header code footer := by
  rcases List.mem_append.mp hp with hp | hp
  · obtain ⟨l, -, hl⟩ := List.mem_filterMap.mp hp
    obtain ⟨i, -, rfl⟩ := Option.map_eq_some_iff.mp hl
    exact ⟨_, _, _, _, _, rfl⟩
  · obtain ⟨m, -, rfl⟩ := List.mem_map.mp hp
    rw [MomentScript.toModule, Script.momentModule]
    split <;> exact ⟨_, _, _, _, _, rfl⟩

/-- The origins of lines stand in the order of the modules. -/
theorem map_origins :
    a.generated.origins.map (fun o => (o.file, o.line)) =
      a.generated.modules.map fun m => (m.file, m.line) := by
  show (a.modules.map (·.2)).map _ = (a.modules.map (·.1)).map _
  rw [List.map_map, List.map_map]
  refine List.map_congr_left fun p hp => ?_
  obtain ⟨s, file, header, code, footer, rfl⟩ := a.exists_toModule_of_mem hp
  rfl

theorem map_file_modules :
    a.generated.modules.map (·.file) = a.generated.origins.map (·.file) := by
  have hfiles := congrArg (List.map Prod.fst) a.map_origins
  simpa [List.map_map, Function.comp_def] using hfiles.symm

theorem file_mem_origins {m : Module} (hm : m ∈ a.generated.modules) :
    ∃ o ∈ a.generated.origins, o.file = m.file := by
  have hmem : m.file ∈ a.generated.origins.map (·.file) :=
    a.map_file_modules ▸ List.mem_map_of_mem hm
  exact List.mem_map.mp hmem

theorem inlineModule_mem {n : Nat} {s : Script} (hs : (a.scriptsOf .sync)[n]? = some s)
    (hinline : s.reference = none) :
    (s.inlineModule a.sourceId (a.inlineBefore n)).1 ∈ a.generated.modules := by
  have hloaded : (⟨s, n, some (a.inlineBefore n)⟩ : LoadedScript) ∈ a.loaded := by
    refine List.mem_of_getElem? (i := n) ?_
    rw [loaded_eq_mapIdx, List.getElem?_mapIdx, hs, Option.map_some, if_pos hinline]
  refine List.mem_map_of_mem ?_
  exact List.mem_append_left _ (List.mem_filterMap.mpr ⟨_, hloaded, rfl⟩)

theorem momentModule_mem {s : Script} {n : Nat} (hs : (s, n) ∈ a.ordinals) (hk : s.kind ≠ .sync) :
    (s.momentModule a.sourceId n).1 ∈ a.generated.modules := by
  have hmoment : (⟨s, n⟩ : MomentScript) ∈ a.moments := by
    have hfilter : (s, n) ∈ a.ordinals.filter (·.1.kind ≠ .sync) := by simp [hs, hk]
    rw [moments_eq_ordinals]
    exact List.mem_map_of_mem (f := fun (s, n) => (⟨s, n⟩ : MomentScript)) hfilter
  refine List.mem_map_of_mem ?_
  exact List.mem_append_right _ (List.mem_map_of_mem (f := MomentScript.toModule _) hmoment)

/-- A script that is loaded and kept in the app file has a module with its code. -/
theorem exists_inlineModule {n : Nat} {s : Script} (hs : (a.scriptsOf .sync)[n]? = some s)
    (hinline : s.reference = none) :
    ∃ m ∈ a.generated.modules, m.file = a.loadedFile n ∧ m.owner = s.id ∧
      Text.pieces m.content.toList =
        [s.comment a.sourceId m.file, contextLine].map String.toList
          ++ Text.pieces (argumentsLine ++ closedCode (s.moduleCode a.sourceId)).toList :=
  ⟨_, a.inlineModule_mem hs hinline, rfl, rfl, s.pieces_inlineModule a.sourceId _⟩

/-- A script that runs at a fixed moment has a module that exports its function. -/
theorem exists_momentModule {s : Script} {n : Nat} (hs : (s, n) ∈ a.ordinals)
    (hk : s.kind ≠ .sync) :
    ∃ m ∈ a.generated.modules, m.file = momentFile s.kind n ∧ m.owner = s.id ∧
      Text.pieces m.content.toList =
        ([s.comment a.sourceId m.file, contextLine, argumentsLine]
            ++ s.outsideImport a.sourceId ++ [s.exportLine n]).map String.toList
          ++ Text.pieces (Script.exportsLine ++ closedCode (s.momentBody a.sourceId)
            ++ "\x7d\n").toList := by
  have hfile := s.file_momentModule_fst a.sourceId n
  refine ⟨_, a.momentModule_mem hs hk, hfile, s.owner_momentModule _ _, ?_⟩
  rw [hfile]
  exact s.pieces_momentModule a.sourceId n

/-! ## Imports of modules -/

/-- The imports of the entry. -/
def imports : List EntryImport := a.loadedImports ++ a.momentImports

/-- The number of scripts kept outside whose reference is resolved to a target. -/
def outsideImports (target : String) : Nat :=
  (a.scriptsOf .sync).countP fun s => s.reference.any (absoluteReference a.sourceId · = target)

theorem map_loadedTarget :
    a.loadedImports.map (·.target) = a.loaded.map (·.target a.sourceId) := by
  refine List.ext_getElem? fun n => ?_
  simp only [loaded_eq_mapIdx, loadedImports, List.getElem?_map, List.getElem?_mapIdx,
    Option.map_map]
  refine congrArg (Option.map · _) (funext fun s => ?_)
  simp only [Function.comp_apply, loadedTarget, LoadedScript.target]
  cases s.reference <;> rfl

theorem countP_outside (x : String) :
    a.loaded.countP (fun l => l.inlineIndex = none ∧ l.target a.sourceId = x) =
      a.outsideImports x := by
  rw [outsideImports, ← map_script_loaded, List.countP_map]
  refine List.countP_congr fun l hl => ?_
  rw [loaded_eq_mapIdx] at hl
  obtain ⟨n, hn, rfl⟩ := List.mem_mapIdx.mp hl
  rcases Option.eq_none_or_eq_some (a.scriptsOf .sync)[n].reference with hr | ⟨reference, hr⟩
  · simp [hr]
  · simp [hr, LoadedScript.target]

theorem map_momentTarget :
    a.momentImports.map (·.target) =
      a.moments.map fun m => "./" ++ momentFile m.script.kind m.index := by
  rw [moments_eq_ordinals, momentImports, List.map_map, List.map_map]
  rfl

/-- A module is imported once, and once more by each script kept outside whose reference is resolved
to the file of the module. -/
theorem count_imports {m : Module} (hm : m ∈ a.generated.modules) :
    (a.imports.map (·.target)).count ("./" ++ m.file) = a.outsideImports ("./" ++ m.file) + 1 := by
  have hfiles : (a.generated.origins.map (·.file)).map ("./" ++ ·) =
      (a.loaded.filterMap (·.inlineIndex)).map ("./" ++ inlineFile ·)
        ++ a.momentImports.map (·.target) := by
    rw [files_eq, map_momentTarget, List.map_append, List.map_map, List.map_map]
    rfl
  have hone : ((a.generated.origins.map (·.file)).map ("./" ++ ·)).count ("./" ++ m.file) = 1 := by
    refine List.count_eq_one_of_mem
      (a.nodup_files.map fun f g => (String.append_right_inj "./").mp) ?_
    have hmem : m.file ∈ a.generated.origins.map (·.file) :=
      a.map_file_modules ▸ List.mem_map_of_mem hm
    exact List.mem_map_of_mem hmem
  rw [hfiles, List.count_append] at hone
  rw [imports, List.map_append, List.count_append, map_loadedTarget,
    LoadedScript.count_target, countP_outside]
  omega

/-- No script kept outside is imported from the file of a module, if references can be joined to the
URL of the app file. -/
theorem outsideImports_eq_zero (hjoin : Joinable a.sourceId) {m : Module}
    (hm : m ∈ a.generated.modules) : a.outsideImports ("./" ++ m.file) = 0 := by
  obtain ⟨o, ho, hfile⟩ := a.file_mem_origins hm
  have hhead : ∃ rest, m.file.toList = '_' :: rest := by
    rcases take_file_of_mem_origins ho with htake | htake
    all_goals
      rw [hfile] at htake
      cases hchars : m.file.toList with
      | nil => simp [hchars] at htake
      | cons c cs =>
        rw [hchars] at htake
        exact ⟨cs, by rw [(List.cons.inj htake).1]⟩
  obtain ⟨rest, hrest⟩ := hhead
  refine List.countP_eq_zero.mpr fun s _ hs => ?_
  cases hr : s.reference with
  | none => simp [hr] at hs
  | some reference =>
    rw [hr, Option.any_some, decide_eq_true_eq] at hs
    exact hjoin.absoluteReference_ne_beside (hfile ▸ a.slashFree_of_mem_origins ho) hrest
      reference hs

/-! ## Files -/

/-- A path is in one module at most. -/
theorem length_filter_namesFile (path : String) :
    (a.generated.origins.filter (namesFile path ·.file)).length ≤ 1 := by
  have hnodup : ((a.generated.origins.filter (namesFile path ·.file)).map (·.file)).Nodup :=
    (List.filter_sublist.map _).nodup a.nodup_files
  have hname : ∀ o ∈ a.generated.origins.filter (namesFile path ·.file),
      fileName path = o.file := by
    intro o ho
    obtain ⟨hmem, hnames⟩ := List.mem_filter.mp ho
    exact (namesFile_iff (a.slashFree_of_mem_origins hmem)).mp hnames
  cases hfilter : a.generated.origins.filter (namesFile path ·.file) with
  | nil => simp
  | cons o rest =>
    cases rest with
    | nil => simp
    | cons o' rest =>
      rw [hfilter] at hnodup hname
      have hsame : o.file = o'.file := (hname o (by simp)).symm.trans (hname o' (by simp))
      simp [hsame] at hnodup

theorem nodup_writtenFiles : (a.generated.files.map (·.1)).Nodup := by
  rw [Generated.files, List.map_append, List.map_map, List.nodup_append]
  have hfiles : a.generated.modules.map (Prod.fst ∘ fun m => (m.file, m.content)) =
      a.generated.origins.map (·.file) := a.map_file_modules
  rw [hfiles]
  refine ⟨a.nodup_files, by simp, ?_⟩
  intro file hfile entry hentry
  obtain ⟨o, ho, rfl⟩ := List.mem_map.mp hfile
  rw [List.mem_singleton.mp hentry]
  exact (file_ne_entryFile ho).symm

/-! ## All of it -/

/-- How the entry and the modules of an app are wired. -/
structure Wired : Prop where
  /-- The entry begins with the lines that it is to have in front of the handlers. -/
  entry : Text.pieces a.generated.entry.toList =
    a.frontLines.map String.toList ++ Text.pieces (entryText a.handlerLines).toList
  /-- Scripts of each kind are numbered in the order of the file. -/
  ordinals (kind : Timing) :
    a.ordinals.filter (·.1.kind = kind) = (a.scriptsOf kind).mapIdx fun n s => (s, n)
  /-- A script that is loaded and kept in the app file has a module with its code. -/
  inlineModule {n : Nat} {s : Script} (hs : (a.scriptsOf .sync)[n]? = some s)
    (hinline : s.reference = none) :
    ∃ m ∈ a.generated.modules, m.file = a.loadedFile n ∧ m.owner = s.id ∧
      Text.pieces m.content.toList =
        [s.comment a.sourceId m.file, contextLine].map String.toList
          ++ Text.pieces (argumentsLine ++ closedCode (s.moduleCode a.sourceId)).toList
  /-- A script that runs at a fixed moment has a module that exports its function. -/
  momentModule {s : Script} {n : Nat} (hs : (s, n) ∈ a.ordinals) (hk : s.kind ≠ .sync) :
    ∃ m ∈ a.generated.modules, m.file = momentFile s.kind n ∧ m.owner = s.id ∧
      Text.pieces m.content.toList =
        ([s.comment a.sourceId m.file, contextLine, argumentsLine]
            ++ s.outsideImport a.sourceId ++ [s.exportLine n]).map String.toList
          ++ Text.pieces (Script.exportsLine ++ closedCode (s.momentBody a.sourceId)
            ++ "\x7d\n").toList
  /-- No two modules are in one file, and none is in that of the entry. -/
  nodup : (a.generated.modules.map (·.file)).Nodup
  notEntry : ∀ m ∈ a.generated.modules, m.file ≠ entryFile
  /-- The origins of lines stand in the order of the modules. -/
  origins : a.generated.origins.map (fun o => (o.file, o.line)) =
    a.generated.modules.map fun m => (m.file, m.line)
  /-- A module is imported once, and once more by each script kept outside whose reference is
  resolved to the file of the module. -/
  imported : ∀ m ∈ a.generated.modules,
    (a.imports.map (·.target)).count ("./" ++ m.file) = a.outsideImports ("./" ++ m.file) + 1
  /-- There is no such script if references can be joined to the URL of the app file. -/
  importedOnce (hjoin : Joinable a.sourceId) : ∀ m ∈ a.generated.modules,
    (a.imports.map (·.target)).count ("./" ++ m.file) = 1
  /-- A path is in one module at most. -/
  unambiguous (path : String) : (a.generated.origins.filter (namesFile path ·.file)).length ≤ 1
  /-- When all files are written, each holds its own text. -/
  written {folder : Path} {d d' : Disk}
    (h : d.run (a.generated.writeTo folder) = (.ok (), d')) :
    ∀ x ∈ a.generated.files, d'.run (Disk.readText (folder ++ [x.1])) = (.ok x.2, d')

/-- The entry imports the scripts of an app from where they are, in their order, and merges and
awaits them in that order; every script in the app file has a module of its own. -/
theorem wired : a.Wired where
  entry := a.pieces_entry_front
  ordinals := a.filter_ordinals
  inlineModule := a.exists_inlineModule
  momentModule := a.exists_momentModule
  nodup := a.map_file_modules ▸ a.nodup_files
  notEntry m hm := by
    obtain ⟨o, ho, hfile⟩ := a.file_mem_origins hm
    exact hfile ▸ (file_ne_entryFile ho).symm
  origins := a.map_origins
  imported _ := a.count_imports
  importedOnce hjoin m hm := by
    rw [a.count_imports hm, a.outsideImports_eq_zero hjoin hm]
  unambiguous := a.length_filter_namesFile
  written h := Generated.readText_of_writeTo a.nodup_writtenFiles (fun _ => a.isName_of_mem_files) h

end App

/-- An app whose URL has no segments, with a script kept outside and one kept in the app file. -/
def mailApp : App where
  sourceId := "mailto:app"
  content := ""
  template := ""
  scripts := [
    ⟨"s0", .sync, "", some "./_inline_0.ts", false, ⟨⟨1, 0, 0⟩, ⟨1, 0, 0⟩⟩⟩,
    ⟨"s1", .sync, "let x = 1;", none, false, ⟨⟨2, 0, 0⟩, ⟨2, 10, 10⟩⟩⟩]
  handlers := []

/-- References cannot be joined to such a URL, so the script kept outside is looked for beside the
entry, where the module of the other one is: the entry imports that module twice. -/
theorem mailApp_imports_twice :
    mailApp.generated.modules.map (·.file) = ["_inline_0.ts"] ∧
      (Text.pieces mailApp.generated.entry.toList)[5]? =
        some "import * as __script_0 from \"./_inline_0.ts\";".toList ∧
      (Text.pieces mailApp.generated.entry.toList)[6]? =
        some "import * as __script_1 from \"./_inline_0.ts\";".toList := by
  have hfile : inlineFile 0 = "_inline_0.ts" := by decide +kernel
  have houtside : absoluteReference "mailto:app" "./_inline_0.ts" = "./_inline_0.ts" := by
    decide +kernel
  have hfirst : mailApp.frontLines[5]? =
      some (EntryImport.line ⟨"* as __script_" ++ decimal 0, "./_inline_0.ts"⟩) := by
    rw [← houtside]
    rfl
  have hsecond : mailApp.frontLines[6]? =
      some (EntryImport.line ⟨"* as __script_" ++ decimal 1, "./" ++ inlineFile 0⟩) := rfl
  have hlength : 6 < mailApp.frontLines.length := (List.getElem?_eq_some_iff.mp hsecond).1
  rw [mailApp.pieces_entry_front, List.getElem?_append_left (by rw [List.length_map]; omega),
    List.getElem?_append_left (by rw [List.length_map]; omega), List.getElem?_map, List.getElem?_map,
    hfirst, hsecond]
  refine ⟨congrArg (fun file => [file]) hfile, ?_, ?_⟩
  · decide +kernel
  · decide +kernel

end AppBundle
