import AppBundle.Proofs.Entry.Scanned

/-!
# Imports in generated code

Scanning the modules of an app finds the imports of the scripts, each resolved against the app file;
scanning the entry finds the imports of the modules and of the scripts kept outside, and the imports
in the code of handlers (`App.TargetsUnquoted.imports_resolved`). The latter are moved as they are, so
a relative one comes to depend on where the entry is. Apart from these, what is left relative names a
module beside the entry, or comes from a reference that no URL can be built from.

What is shown in generated lines, such as the path of the app file in a comment, is found too if it
reads like an import. A quote in what a reference is resolved to would end the specifier early.
-/

namespace AppBundle

open Import

/-! ## What stays relative -/

/-- A reference that cannot be joined to the URL of the app file; none that begins with a point is
such a reference. -/
structure Unjoined (sourceId reference : String) : Prop where
  noUrl : (sourceUrl? sourceId).bind (Url.resolve? · reference) = none
  noPoint : ∀ rest, reference.toList ≠ '.' :: rest

/-- What a reference is resolved to is relative only if no URL can be built. -/
theorem unjoined_of_head {sourceId reference : String} (hjoin : Joinable sourceId) {c : Char}
    {rest : List Char} (htext : (absoluteReference sourceId reference).toList = c :: rest)
    (hc : c = '.' ∨ c = '/') : Unjoined sourceId reference := by
  have hsign : 32 < c.toNat ∧ c.isAlpha = false := by rcases hc with rfl | rfl <;> decide
  have hletter : (∃ d tail, (absoluteReference sourceId reference).toList = d :: tail ∧
      d.isAlpha = true) → False := by
    rintro ⟨d, tail, hd, halpha⟩
    obtain ⟨rfl, -⟩ := List.cons.inj (hd.symm.trans htext)
    simp [hsign.2] at halpha
  refine ⟨?_, fun tail hpoint => hletter (hjoin.absoluteReference hpoint (by decide) (by decide)
    (by decide) (by decide))⟩
  rw [Option.eq_none_iff_forall_ne_some]
  intro u hu
  cases hscheme : carriesScheme reference with
  | true =>
    rw [absoluteReference, if_pos hscheme] at htext
    simp [carriesScheme_eq_false htext hsign.1 hsign.2] at hscheme
  | false =>
    refine hletter ?_
    rw [absoluteReference, if_neg (by simp [hscheme]), hu]
    simpa using letter_of_resolved hu

/-- In a literal a text begins as it does outside. -/
theorem head_of_escape {s : String} {c : Char} {rest : List Char} (hc : c = '.' ∨ c = '/')
    (htext : (Code.escape s).toList = c :: rest) : ∃ tail, s.toList = c :: tail := by
  rw [Code.escape, String.toList_ofList] at htext
  cases hs : s.toList with
  | nil => simp [hs] at htext
  | cons d tail =>
    refine ⟨tail, ?_⟩
    rw [hs, List.flatMap_cons, Code.escapeChar] at htext
    split_ifs at htext
    case neg => rw [(List.cons.inj htext).1]
    -- an escape begins with a backslash
    all_goals
      obtain ⟨rfl, -⟩ := List.cons.inj htext
      exact absurd hc (by decide)

namespace App

/-- No quote stands in what the references of an app and the relative specifiers in its code are
resolved to. -/
structure TargetsUnquoted (a : App) : Prop where
  references : ∀ s ∈ a.scripts, ∀ r ∈ s.reference, Unquoted (absoluteReference a.sourceId r).toList
  specifiers : ∀ s ∈ a.scripts, s.reference = none → ∀ i ∈ scan s.code,
    isRelative i.specifier = true →
      ∀ c ∈ (absoluteReference a.sourceId i.specifier).toList, endsSpecifier c = false

/-- The lines of the entry that show paths, labels and names of the app file. -/
def shownLines (a : App) : List String :=
  entryComment a.sourceId :: a.mergeCalls
    ++ a.generatedHandlers.flatMap (fun h => [h.comment, h.opening])
    ++ [entryText a.registryLines]

/-- What scanning finds in all that is generated for an app. -/
structure ImportsResolved (a : App) : Prop where
  /-- In the entry, its imports and those in the code of handlers, as they are written there, among
  what is found in the lines that show something. -/
  entry : specifiersIn a.generated.entry =
    specifiersIn (entryComment a.sourceId)
      ++ a.loadedImports.map (fun i => Code.escape i.target)
      ++ a.mergeCalls.flatMap specifiersIn
      ++ a.momentImports.map (fun i => Code.escape i.target)
      ++ a.generatedHandlers.flatMap (fun h =>
        specifiersIn h.comment ++ specifiersIn h.opening ++ specifiersIn h.code)
      ++ specifiersIn (entryText a.registryLines)
  /-- In the module of a script kept in the app file, the imports of the script, resolved. -/
  loaded {n : Nat} {s : Script} (hs : (a.scriptsOf .sync)[n]? = some s)
    (hinline : s.reference = none) :
    ∃ m ∈ a.generated.modules, m.file = a.loadedFile n ∧ m.owner = s.id ∧
      specifiersIn m.content = specifiersIn (s.comment a.sourceId m.file)
        ++ (specifiersIn s.code).map (resolve a.sourceId)
  moment {s : Script} {n : Nat} (hs : (s, n) ∈ a.ordinals) (hk : s.kind ≠ .sync)
    (hinline : s.reference = none) :
    ∃ m ∈ a.generated.modules, m.file = momentFile s.kind n ∧ m.owner = s.id ∧
      specifiersIn m.content = specifiersIn (s.comment a.sourceId m.file)
        ++ (specifiersIn s.code).map (resolve a.sourceId)
  /-- In that of a script kept outside, what its reference is resolved to. -/
  outside {s : Script} {n : Nat} (hs : (s, n) ∈ a.ordinals) (hk : s.kind ≠ .sync)
    {reference : String} (houtside : s.reference = some reference) :
    ∃ m ∈ a.generated.modules, m.file = momentFile s.kind n ∧ m.owner = s.id ∧
      specifiersIn m.content = specifiersIn (s.comment a.sourceId m.file)
        ++ [Code.escape (absoluteReference a.sourceId reference)]
  /-- A relative specifier in a module is that of a reference that no URL can be built from, but for
  the comment. -/
  modulesRelative : ∀ m ∈ a.generated.modules, ∀ x ∈ specifiersIn m.content, isRelative x = true →
    (∃ s ∈ a.scripts, x ∈ specifiersIn (s.comment a.sourceId m.file)) ∨
      ∃ reference, Unjoined a.sourceId reference ∧
        (x = absoluteReference a.sourceId reference ∨
          x = Code.escape (absoluteReference a.sourceId reference))
  /-- One in the entry names a module, or it stands in the code of a handler, or it is such a one,
  but for the lines that show something. -/
  entryRelative : ∀ x ∈ specifiersIn a.generated.entry, isRelative x = true →
    (∃ m ∈ a.generated.modules, x = "./" ++ m.file) ∨
      (∃ h ∈ a.generatedHandlers, x ∈ specifiersIn h.code) ∨
      (∃ reference, Unjoined a.sourceId reference ∧
        x = Code.escape (absoluteReference a.sourceId reference)) ∨
      ∃ l ∈ a.shownLines, x ∈ specifiersIn l

variable {a : App}

/-! ## The entry -/

theorem bindable_clause {i : EntryImport} (hi : i ∈ a.imports) : Bindable i.clause := by
  rcases List.mem_append.mp hi with hi | hi
  · obtain ⟨n, -, rfl⟩ := List.mem_mapIdx.mp hi
    exact Bindable.append_iff.mpr ⟨.ofChars (by decide), .decimal n⟩
  · obtain ⟨p, -, rfl⟩ := List.mem_map.mp hi
    simp only [Bindable.append_iff]
    exact ⟨⟨.ofChars (by decide), .momentName _ _⟩, .ofChars (by decide)⟩

/-- An import of the entry names a module, or it is that of a script kept outside. -/
theorem exists_of_mem_imports {i : EntryImport} (hi : i ∈ a.imports) :
    (∃ m ∈ a.generated.modules, Code.escape i.target = "./" ++ m.file) ∨
      ∃ reference, i.target = absoluteReference a.sourceId reference := by
  rcases List.mem_append.mp hi with hi | hi
  · obtain ⟨n, hn, rfl⟩ := List.mem_mapIdx.mp hi
    cases hreference : (a.scriptsOf .sync)[n].reference with
    | none =>
      left
      refine ⟨_, a.inlineModule_mem (List.getElem?_eq_getElem hn) hreference, ?_⟩
      simp only [loadedTarget, hreference]
      exact (plain_inlineFile _).escape
    | some reference => exact .inr ⟨reference, by simp only [loadedTarget, hreference]⟩
  · obtain ⟨⟨s, n⟩, hs, rfl⟩ := List.mem_map.mp hi
    obtain ⟨hs, hk⟩ := List.mem_filter.mp hs
    left
    refine ⟨_, a.momentModule_mem hs (of_decide_eq_true hk), ?_⟩
    rw [s.file_momentModule_fst]
    exact (plain_momentFile _ _).escape

/-- In lines that show nothing of the app file, nothing is found. -/
theorem flatMap_found_eq_nil {ls : List String} (hls : ∀ l ∈ ls, found l.toList = []) :
    (ls.map String.toList).flatMap found = [] := by
  rw [List.flatMap_eq_nil_iff]
  intro cs hcs
  obtain ⟨l, hl, rfl⟩ := List.mem_map.mp hcs
  exact hls l hl

theorem flatMap_found_awaiting (a : App) (name : String) (hname : Bindable name) (kind : Timing) :
    ((a.awaiting name kind).map String.toList).flatMap found = [] :=
  flatMap_found_eq_nil fun _ hl => a.found_of_mem_awaiting hname hl

theorem flatMap_found_mergeLines (a : App) :
    ((if (a.scriptsOf .sync).isEmpty then [] else mergeFunction ++ a.mergeCalls).map
      String.toList).flatMap found = (a.mergeCalls.map String.toList).flatMap found := by
  split
  · next hempty =>
    rw [mergeCalls, List.isEmpty_iff.mp hempty]
    rfl
  · rw [List.map_append, List.flatMap_append,
      flatMap_found_eq_nil fun _ hl => found_of_mem_mergeFunction hl, List.nil_append]

namespace TargetsUnquoted

variable (ha : a.TargetsUnquoted)

include ha

/-- The target of an import of the entry is found as a whole. -/
theorem content_target {i : EntryImport} (hi : i ∈ a.imports) :
    Content (Code.escape i.target).toList := by
  have hbeside : ∀ file : String, "./" ++ file ≠ "" := by simp
  rcases List.mem_append.mp hi with hi | hi
  · obtain ⟨n, hn, rfl⟩ := List.mem_mapIdx.mp hi
    have hs : (a.scriptsOf .sync)[n] ∈ a.scripts := (List.mem_filter.mp (List.getElem_mem hn)).1
    unfold loadedTarget
    split
    · next r hr => exact content_escape (ha.references _ hs r hr) (absoluteReference_ne_empty _ _)
    · exact content_escape (unquoted_inlineFile _) (hbeside _)
  · obtain ⟨p, -, rfl⟩ := List.mem_map.mp hi
    exact content_escape (unquoted_momentFile _ _) (hbeside _)

theorem flatMap_found_imports (is : List EntryImport) (his : ∀ i ∈ is, i ∈ a.imports) :
    ((is.map (·.line)).map String.toList).flatMap found =
      is.map fun i => (Code.escape i.target).toList := by
  induction is with
  | nil => rfl
  | cons i is ih =>
    obtain ⟨hi, his⟩ := List.forall_mem_cons.mp his
    have hline : found i.line.toList = [(Code.escape i.target).toList] :=
      found_line_literal (bindable_clause hi) (ha.content_target hi)
    rw [List.map_cons, List.map_cons, List.flatMap_cons, hline, ih his]
    rfl

/-- In the lines in front of the handlers, the imports of the entry are found. -/
theorem flatMap_found_frontLines :
    (a.frontLines.map String.toList).flatMap found =
      found (entryComment a.sourceId).toList
        ++ a.loadedImports.map (fun i => (Code.escape i.target).toList)
        ++ (a.mergeCalls.map String.toList).flatMap found
        ++ a.momentImports.map (fun i => (Code.escape i.target).toList) := by
  have hinit := a.flatMap_found_awaiting "__melkerInit" (.ofChars (by decide)) .init
  have hready := a.flatMap_found_awaiting "__melkerReady" (.ofChars (by decide)) .ready
  have hloaded := ha.flatMap_found_imports a.loadedImports fun _ hi => List.mem_append_left _ hi
  have hmoment := ha.flatMap_found_imports a.momentImports fun _ hi => List.mem_append_right _ hi
  simp only [frontLines, List.map_append, List.flatMap_append, flatMap_found_contextSection,
    flatMap_found_mergeLines, hinit, hready, hloaded, hmoment, List.append_nil]

theorem specifiersIn_entry :
    specifiersIn a.generated.entry =
      specifiersIn (entryComment a.sourceId)
        ++ a.loadedImports.map (fun i => Code.escape i.target)
        ++ a.mergeCalls.flatMap specifiersIn
        ++ a.momentImports.map (fun i => Code.escape i.target)
        ++ a.generatedHandlers.flatMap (fun h =>
          specifiersIn h.comment ++ specifiersIn h.opening ++ specifiersIn h.code)
        ++ specifiersIn (entryText a.registryLines) := by
  rw [specifiersIn_eq, a.found_entry, ha.flatMap_found_frontLines]
  simp only [List.map_append, List.map_flatMap, List.flatMap_map, List.map_map, ← specifiersIn_eq,
    Function.comp_def, String.ofList_toList]

/-! ## The modules -/

theorem specifiersIn_moduleCode (hjoin : Joinable a.sourceId) {s : Script} (hs : s ∈ a.scripts)
    (hinline : s.reference = none) :
    specifiersIn (s.moduleCode a.sourceId) = (specifiersIn s.code).map (resolve a.sourceId) := by
  rw [specifiersIn_eq, specifiersIn_eq, s.found_moduleCode hjoin (ha.specifiers s hs hinline),
    List.map_map, List.map_map]
  exact List.map_congr_left fun _ _ => String.ofList_toList

theorem specifiersIn_inlineModule (hjoin : Joinable a.sourceId) {s : Script} (hs : s ∈ a.scripts)
    (hinline : s.reference = none) (k : Nat) :
    specifiersIn (s.inlineModule a.sourceId k).1.content =
      specifiersIn (s.comment a.sourceId (inlineFile k))
        ++ (specifiersIn s.code).map (resolve a.sourceId) := by
  rw [← ha.specifiersIn_moduleCode hjoin hs hinline]
  simp only [specifiersIn_eq, s.found_inlineModule, List.map_append]

theorem specifiersIn_momentModule (hjoin : Joinable a.sourceId) {s : Script} (hs : s ∈ a.scripts)
    (hinline : s.reference = none) (k : Nat) :
    specifiersIn (s.momentModule a.sourceId k).1.content =
      specifiersIn (s.comment a.sourceId (momentFile s.kind k))
        ++ (specifiersIn s.code).map (resolve a.sourceId) := by
  rw [← ha.specifiersIn_moduleCode hjoin hs hinline]
  simp only [specifiersIn_eq, s.found_momentModule, Script.outsideImport, Script.momentBody, hinline,
    List.map_nil, List.flatMap_nil, List.append_nil, List.map_append]

theorem specifiersIn_outsideModule {s : Script} (hs : s ∈ a.scripts) {reference : String}
    (houtside : s.reference = some reference) (k : Nat) :
    specifiersIn (s.momentModule a.sourceId k).1.content =
      specifiersIn (s.comment a.sourceId (momentFile s.kind k))
        ++ [Code.escape (absoluteReference a.sourceId reference)] := by
  have hcontent := content_escape (ha.references s hs reference houtside)
    (absoluteReference_ne_empty a.sourceId reference)
  have hline : found (importAll "__external" (absoluteReference a.sourceId reference)).toList =
      [(Code.escape (absoluteReference a.sourceId reference)).toList] := by
    have hclause : Bindable "* as __external" := .ofChars (by decide)
    rw [← found_line_literal hclause hcontent]
    simp [importAll]
  have hcall : found callOutside.toList = [] := found_ofChars (by decide +kernel)
  simp only [specifiersIn_eq, s.found_momentModule, Script.outsideImport, Script.momentBody,
    houtside, List.map_cons, List.map_nil, List.flatMap_cons, List.flatMap_nil, hline, hcall,
    List.append_nil, List.map_append, String.ofList_toList]

end TargetsUnquoted

/-! ## What is left relative -/

/-- A specifier that is still relative when it was resolved is that of such a reference. -/
theorem exists_unjoined_of_resolve (hjoin : Joinable a.sourceId) {specifier : String}
    (hrelative : isRelative (resolve a.sourceId specifier) = true) :
    ∃ reference, Unjoined a.sourceId reference ∧
      resolve a.sourceId specifier = absoluteReference a.sourceId reference := by
  rw [resolve] at hrelative
  split at hrelative
  · next hbefore =>
    obtain ⟨c, rest, htext, hc⟩ := head_of_isRelative hrelative
    exact ⟨specifier, unjoined_of_head hjoin htext hc, if_pos hbefore⟩
  · next hbefore => exact absurd hrelative hbefore

/-- So is a target that is still relative. -/
theorem unjoined_of_escape (hjoin : Joinable a.sourceId) {reference : String}
    (hrelative : isRelative (Code.escape (absoluteReference a.sourceId reference)) = true) :
    Unjoined a.sourceId reference := by
  obtain ⟨c, rest, htext, hc⟩ := head_of_isRelative hrelative
  obtain ⟨tail, htail⟩ := head_of_escape hc htext
  exact unjoined_of_head hjoin htail hc

theorem reference_eq_none_of_mem_loaded {l : LoadedScript} (hl : l ∈ a.loaded) {k : Nat}
    (hk : l.inlineIndex = some k) : l.script.reference = none := by
  rw [loaded_eq_mapIdx] at hl
  obtain ⟨n, hn, rfl⟩ := List.mem_mapIdx.mp hl
  dsimp only at hk
  split at hk
  · next hinline => exact hinline
  · exact absurd hk (by simp)

namespace TargetsUnquoted

variable (ha : a.TargetsUnquoted)

include ha

theorem modulesRelative (hjoin : Joinable a.sourceId) {m : Module} (hm : m ∈ a.generated.modules)
    {x : String} (hx : x ∈ specifiersIn m.content) (hrelative : isRelative x = true) :
    (∃ s ∈ a.scripts, x ∈ specifiersIn (s.comment a.sourceId m.file)) ∨
      ∃ reference, Unjoined a.sourceId reference ∧
        (x = absoluteReference a.sourceId reference ∨
          x = Code.escape (absoluteReference a.sourceId reference)) := by
  have hresolved : ∀ s : Script, x ∈ (specifiersIn s.code).map (resolve a.sourceId) →
      ∃ reference, Unjoined a.sourceId reference ∧ x = absoluteReference a.sourceId reference := by
    intro s hmem
    obtain ⟨y, -, rfl⟩ := List.mem_map.mp hmem
    exact exists_unjoined_of_resolve hjoin hrelative
  obtain ⟨p, hp, rfl⟩ := List.mem_map.mp hm
  rcases List.mem_append.mp hp with hp | hp
  · -- the module of a script that is loaded
    obtain ⟨l, hl, hmodule⟩ := List.mem_filterMap.mp hp
    obtain ⟨k, hk, rfl⟩ := Option.map_eq_some_iff.mp hmodule
    have hs := script_mem_of_mem_loaded hl
    rw [ha.specifiersIn_inlineModule hjoin hs (reference_eq_none_of_mem_loaded hl hk)] at hx
    rcases List.mem_append.mp hx with hx | hx
    · exact .inl ⟨l.script, hs, hx⟩
    · obtain ⟨reference, hunjoined, heq⟩ := hresolved l.script hx
      exact .inr ⟨reference, hunjoined, .inl heq⟩
  · -- the module of a script that runs at a fixed moment
    obtain ⟨y, hy, rfl⟩ := List.mem_map.mp hp
    have hs := script_mem_of_mem_moments hy
    have hfile := y.script.file_momentModule_fst a.sourceId y.index
    cases hreference : y.script.reference with
    | none =>
      rw [MomentScript.toModule, ha.specifiersIn_momentModule hjoin hs hreference, ← hfile] at hx
      rcases List.mem_append.mp hx with hx | hx
      · exact .inl ⟨y.script, hs, hx⟩
      · obtain ⟨reference, hunjoined, heq⟩ := hresolved y.script hx
        exact .inr ⟨reference, hunjoined, .inl heq⟩
    | some reference =>
      rw [MomentScript.toModule, ha.specifiersIn_outsideModule hs hreference, ← hfile] at hx
      rcases List.mem_append.mp hx with hx | hx
      · exact .inl ⟨y.script, hs, hx⟩
      · obtain rfl := List.mem_singleton.mp hx
        exact .inr ⟨reference, unjoined_of_escape hjoin hrelative, .inr rfl⟩

theorem entryRelative (hjoin : Joinable a.sourceId) {x : String}
    (hx : x ∈ specifiersIn a.generated.entry) (hrelative : isRelative x = true) :
    (∃ m ∈ a.generated.modules, x = "./" ++ m.file) ∨
      (∃ h ∈ a.generatedHandlers, x ∈ specifiersIn h.code) ∨
      (∃ reference, Unjoined a.sourceId reference ∧
        x = Code.escape (absoluteReference a.sourceId reference)) ∨
      ∃ l ∈ a.shownLines, x ∈ specifiersIn l := by
  have himport : ∀ {is : List EntryImport}, (∀ i ∈ is, i ∈ a.imports) →
      x ∈ is.map (fun i => Code.escape i.target) →
        (∃ m ∈ a.generated.modules, x = "./" ++ m.file) ∨
          ∃ reference, Unjoined a.sourceId reference ∧
            x = Code.escape (absoluteReference a.sourceId reference) := by
    intro is his hmem
    obtain ⟨i, hi, rfl⟩ := List.mem_map.mp hmem
    rcases exists_of_mem_imports (his i hi) with hmodule | ⟨reference, htarget⟩
    · exact .inl hmodule
    · rw [htarget] at hrelative ⊢
      exact .inr ⟨reference, unjoined_of_escape hjoin hrelative, rfl⟩
  have hshown : ∀ {l : String}, l ∈ a.shownLines → x ∈ specifiersIn l →
      ∃ l ∈ a.shownLines, x ∈ specifiersIn l := fun hl hmem => ⟨_, hl, hmem⟩
  rw [ha.specifiersIn_entry] at hx
  simp only [List.mem_append] at hx
  rcases hx with ((((hx | hx) | hx) | hx) | hx) | hx
  · -- the comment at the top
    exact .inr (.inr (.inr (hshown (by simp [shownLines]) hx)))
  · -- the imports of scripts that are loaded
    rcases himport (fun _ hi => List.mem_append_left _ hi) hx with h | h
    · exact .inl h
    · exact .inr (.inr (.inl h))
  · -- the lines that merge their exports
    obtain ⟨l, hl, hx⟩ := List.mem_flatMap.mp hx
    exact .inr (.inr (.inr (hshown (by simp [shownLines, hl]) hx)))
  · -- the imports of scripts that run at a fixed moment
    rcases himport (fun _ hi => List.mem_append_right _ hi) hx with h | h
    · exact .inl h
    · exact .inr (.inr (.inl h))
  · -- the lines around handlers, and their code
    obtain ⟨h, hh, hx⟩ := List.mem_flatMap.mp hx
    have hlines : ∀ l ∈ [h.comment, h.opening], l ∈ a.shownLines := by
      intro l hl
      have hmem : l ∈ a.generatedHandlers.flatMap fun h => [h.comment, h.opening] :=
        List.mem_flatMap.mpr ⟨h, hh, hl⟩
      exact List.mem_append_left _ (List.mem_append_right _ hmem)
    rcases List.mem_append.mp hx with hx | hx
    · rcases List.mem_append.mp hx with hx | hx
      · exact .inr (.inr (.inr (hshown (hlines _ (by simp)) hx)))
      · exact .inr (.inr (.inr (hshown (hlines _ (by simp)) hx)))
    · exact .inr (.inl ⟨h, hh, hx⟩)
  · -- the registry at the end
    exact .inr (.inr (.inr (hshown (by simp [shownLines]) hx)))

/-- The imports of scripts are resolved in all that is generated; those of handlers are moved as they
are. -/
theorem imports_resolved (hjoin : Joinable a.sourceId) : a.ImportsResolved where
  entry := ha.specifiersIn_entry
  loaded {n s} hs hinline := by
    have hmem : s ∈ a.scripts := (List.mem_filter.mp (List.mem_of_getElem? hs)).1
    exact ⟨_, a.inlineModule_mem hs hinline, rfl, rfl,
      ha.specifiersIn_inlineModule hjoin hmem hinline _⟩
  moment {s n} hs hk hinline := by
    refine ⟨_, a.momentModule_mem hs hk, s.file_momentModule_fst _ _, s.owner_momentModule _ _, ?_⟩
    rw [s.file_momentModule_fst]
    exact ha.specifiersIn_momentModule hjoin (script_mem_of_mem_ordinals hs) hinline _
  outside {s n} hs hk reference houtside := by
    refine ⟨_, a.momentModule_mem hs hk, s.file_momentModule_fst _ _, s.owner_momentModule _ _, ?_⟩
    rw [s.file_momentModule_fst]
    exact ha.specifiersIn_outsideModule (script_mem_of_mem_ordinals hs) houtside _
  modulesRelative _ hm _ hx hrelative := ha.modulesRelative hjoin hm hx hrelative
  entryRelative _ hx hrelative := ha.entryRelative hjoin hx hrelative

end TargetsUnquoted

end App

/-- A script in the app file that imports a module beside it. -/
def besideScript : Script :=
  ⟨"s0", .sync, "import \x27./a.ts\x27;\n", none, false, ⟨⟨1, 0, 0⟩, ⟨1, 0, 0⟩⟩⟩

/-- A script that is kept outside the app file. -/
def outsideScript : Script :=
  ⟨"s1", .init, "", some "./b.ts", false, ⟨⟨2, 0, 0⟩, ⟨2, 0, 0⟩⟩⟩

/-- A handler that imports a module beside the app file. -/
def besideHandler : Handler :=
  ⟨"__h0", "onClick", "import(\x27./a.ts\x27)", false, [], ⟨⟨1, 0, 0⟩, ⟨1, 0, 0⟩⟩,
    ⟨⟨3, 0, 0⟩, ⟨3, 16, 16⟩⟩, ⟨"b", none, 3⟩⟩

/-- An app of these. -/
def besideApp : App where
  sourceId := "/x/app.melker"
  content := ""
  template := ""
  scripts := [besideScript, outsideScript]
  handlers := [besideHandler]

theorem targetsUnquoted_besideApp : besideApp.TargetsUnquoted where
  references s hs r hr := by
    rcases List.mem_cons.mp hs with rfl | hs
    · exact absurd hr (by simp [besideScript])
    · obtain rfl := List.mem_singleton.mp hs
      obtain rfl : r = "./b.ts" := by simpa [outsideScript] using hr.symm
      exact .ofChars (by decide +kernel)
  specifiers s hs hinline i hi hrelative := by
    rcases List.mem_cons.mp hs with rfl | hs
    · have hall : (scan besideScript.code).all (fun i => !isRelative i.specifier ||
          !(absoluteReference "/x/app.melker" i.specifier).toList.any endsSpecifier) = true := by
        decide +kernel
      have hi := List.all_eq_true.mp hall i hi
      rw [hrelative] at hi
      show ∀ c ∈ (absoluteReference "/x/app.melker" i.specifier).toList, endsSpecifier c = false
      simpa using hi
    · obtain rfl := List.mem_singleton.mp hs
      exact absurd hinline (by simp [outsideScript])

theorem joinable_besideApp : Joinable besideApp.sourceId := by
  have hpath : carriesScheme "/x/app.melker" = false := by decide +kernel
  exact joinable_of_path hpath

/-- In the app with scripts in the file and outside, the imports of scripts are resolved. -/
theorem besideApp_imports_resolved :
    Joinable besideApp.sourceId ∧ besideApp.TargetsUnquoted ∧ besideApp.ImportsResolved :=
  ⟨joinable_besideApp, targetsUnquoted_besideApp,
    targetsUnquoted_besideApp.imports_resolved joinable_besideApp⟩

/-- The script and the handler import one module, but only the script names it in full where their
code is moved to. -/
theorem besideApp_handler_unresolved :
    Joinable besideApp.sourceId ∧ absoluteReference besideApp.sourceId "./a.ts" = "file:///x/a.ts" ∧
      besideApp.generated.modules.map (fun m => specifiersIn m.content) =
        [["file:///x/a.ts"], ["file:///x/b.ts"]] ∧
      specifiersIn besideApp.generated.entry = ["./_inline_0.ts", "./_init_0.ts", "./a.ts"] := by
  have hmodules : besideApp.generated.modules =
      [(besideScript.inlineModule besideApp.sourceId 0).1,
        (outsideScript.momentModule besideApp.sourceId 0).1] := rfl
  have hsync : specifiersIn (besideScript.inlineModule besideApp.sourceId 0).1.content =
      ["file:///x/a.ts"] := by
    rw [targetsUnquoted_besideApp.specifiersIn_inlineModule joinable_besideApp
      (by simp [besideApp]) rfl]
    decide +kernel
  have hinit : specifiersIn (outsideScript.momentModule besideApp.sourceId 0).1.content =
      ["file:///x/b.ts"] := by
    rw [targetsUnquoted_besideApp.specifiersIn_outsideModule (s := outsideScript)
      (by simp [besideApp]) rfl]
    decide +kernel
  refine ⟨joinable_besideApp, by decide +kernel, ?_, ?_⟩
  · rw [hmodules, List.map_cons, List.map_singleton, hsync, hinit]
  · rw [targetsUnquoted_besideApp.specifiersIn_entry]
    decide +kernel

end AppBundle
