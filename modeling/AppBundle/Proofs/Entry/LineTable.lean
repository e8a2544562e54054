import AppBundle.Proofs.Entry.Text
import AppBundle.Proofs.LineTable
import Mathlib.Data.List.Basic

/-!
# The line table of the entry module

The table has an entry for exactly those lines of the entry that repeat a line of the app file. What
these lines are is read off `App.entryLines` by views, one for each kind of line: which scripts are
imported, merged and awaited, and whose bodies stand there.
-/

namespace AppBundle

/-! ## Lines that are counted -/

variable {ls : List CodeLine} {k n : Nat} {o : LineOrigin}

theorem mem_numberOrigins_cons {l : CodeLine} :
    (n, o) ∈ numberOrigins k (l :: ls) ↔
      n = k ∧ l.origin = some o ∨ (n, o) ∈ numberOrigins (k + 1) ls := by
  rw [numberOrigins]
  cases hl : l.origin with
  | none => simp
  | some o' => simp [eq_comm]

/-- The counted origins are those of the lines with these numbers. -/
theorem mem_numberOrigins :
    (n, o) ∈ numberOrigins k ls ↔ k ≤ n ∧ ls[n - k]?.bind CodeLine.origin = some o := by
  induction ls generalizing k with
  | nil => simp [numberOrigins]
  | cons l ls ih =>
    rw [mem_numberOrigins_cons, ih]
    rcases Nat.lt_trichotomy n k with hlt | rfl | hgt
    · -- the number is in front of the first one
      constructor
      · rintro (⟨rfl, -⟩ | ⟨hle, -⟩) <;> omega
      · rintro ⟨hle, -⟩
        omega
    · -- the number is the first one
      rw [Nat.sub_self, List.getElem?_cons_zero]
      constructor
      · rintro (⟨-, h⟩ | ⟨hle, -⟩)
        · exact ⟨Nat.le_refl n, h⟩
        · omega
      · rintro ⟨-, h⟩
        exact .inl ⟨rfl, h⟩
    · -- the number belongs to a later line
      have hstep : n - k = n - (k + 1) + 1 := by omega
      rw [hstep, List.getElem?_cons_succ]
      constructor
      · rintro (⟨rfl, -⟩ | ⟨hle, h⟩)
        · omega
        · exact ⟨by omega, h⟩
      · rintro ⟨-, h⟩
        exact .inr ⟨by omega, h⟩

theorem pairwise_numberOrigins (k : Nat) (ls : List CodeLine) :
    (numberOrigins k ls).Pairwise (·.1 < ·.1) := by
  induction ls generalizing k with
  | nil => exact .nil
  | cons l ls ih =>
    rw [numberOrigins]
    split
    · refine List.pairwise_cons.mpr ⟨?_, ih (k + 1)⟩
      rintro ⟨n, o⟩ h
      have hle := (mem_numberOrigins.mp h).1
      show k < n
      omega
    · exact ih (k + 1)

/-- The table gives a line the origin that the line carries. -/
theorem App.get?_lineTable (a : App) (n : Nat) :
    a.generated.lineTable.get? n =
      (a.entryLine? n).bind fun l => (l.codeLine a.sourceId).origin := by
  have hentries : a.generated.lineTable.entries = numberOrigins 1 a.codeLines :=
    LineTable.entries_ofList (pairwise_numberOrigins 1 a.codeLines)
  refine Option.ext fun o => ?_
  rw [LineTable.get?_eq_some_iff, hentries, mem_numberOrigins, a.codeLines_eq, List.getElem?_map,
    App.entryLine?]
  by_cases hn : n = 0
  · simp [hn]
  · rw [if_neg hn, Option.bind_map]
    constructor
    · exact fun h => h.2
    · exact fun h => ⟨by omega, h⟩

/-! ## Views of the lines -/

section Views

variable {β : Type} {f : EntryLine → Option β}

theorem filterMap_scaffolding (hf : ∀ s, f (.scaffold s) = none) (ls : List CodeLine) :
    (scaffolding ls).filterMap f = [] := by
  rw [scaffolding, List.filterMap_map]
  exact List.filterMap_eq_nil_iff.mpr fun l _ => hf l.text

theorem filterMap_mergeLines (hf : ∀ s, f (.scaffold s) = none) (ls : List LoadedScript) :
    (mergeLines ls).filterMap f = ls.filterMap (f ∘ .merge) := by
  unfold mergeLines
  split
  · next he => rw [List.isEmpty_iff.mp he]; rfl
  · have hfunction : mergeFunction.filterMap (f ∘ .scaffold) = [] :=
      List.filterMap_eq_nil_iff.mpr fun s _ => hf s
    rw [List.filterMap_append, List.filterMap_map, List.filterMap_map, hfunction, List.nil_append]

theorem filterMap_awaitLines (hf : ∀ s, f (.scaffold s) = none) (name : String)
    (ms : List MomentScript) : (awaitLines name ms).filterMap f = ms.filterMap (f ∘ .await) := by
  unfold awaitLines
  split
  · next he => rw [List.isEmpty_iff.mp he]; rfl
  · rw [List.filterMap_append, List.filterMap_cons_none (hf _), List.filterMap_map,
      List.filterMap_cons_none (hf _), List.filterMap_nil, List.append_nil]

theorem Handler.filterMap_entryLines (hf : ∀ s, f (.scaffold s) = none) (h : Handler) :
    h.entryLines.filterMap f = (List.range h.bodyLines.length).filterMap (f ∘ .body h) := by
  rw [Handler.entryLines, List.filterMap_append, List.filterMap_cons_none (hf _),
    List.filterMap_cons_none (hf _), List.filterMap_map, List.filterMap_cons_none (hf _),
    List.filterMap_nil, List.append_nil]

/-- A view that leaves scaffolding out consists of the views of the sections. -/
theorem App.filterMap_entryLines (hf : ∀ s, f (.scaffold s) = none) (a : App) :
    a.entryLines.filterMap f =
      a.loaded.filterMap (f ∘ .loadedImport) ++ a.loaded.filterMap (f ∘ .merge)
        ++ a.moments.filterMap (f ∘ .momentImport)
        ++ (a.moments.filter (·.script.kind = .init)).filterMap (f ∘ .await)
        ++ (a.moments.filter (·.script.kind = .ready)).filterMap (f ∘ .await)
        ++ a.generatedHandlers.flatMap fun h =>
          (List.range h.bodyLines.length).filterMap (f ∘ .body h) := by
  simp only [App.entryLines, App.leadingLines, List.filterMap_append, filterMap_scaffolding hf,
    filterMap_mergeLines hf, filterMap_awaitLines hf, List.filterMap_map, List.filterMap_flatMap,
    Handler.filterMap_entryLines hf, List.nil_append, List.append_nil]

end Views

namespace App

variable (a : App)

/-- Every script is imported once, those that are loaded with the app first. -/
theorem filterMap_imported :
    a.entryLines.filterMap EntryLine.imported? =
      a.scriptsOf .sync ++ a.scripts.filter (·.kind ≠ .sync) := by
  rw [a.filterMap_entryLines fun _ => rfl, ← a.map_script_loaded, ← a.map_script_moments]
  simp [Function.comp_def, EntryLine.imported?]

/-- Every script that is loaded with the app is merged once. -/
theorem filterMap_merged : a.entryLines.filterMap EntryLine.merged? = a.scriptsOf .sync := by
  rw [a.filterMap_entryLines fun _ => rfl, ← a.map_script_loaded]
  simp [Function.comp_def, EntryLine.merged?]

/-- Every script that runs at a fixed moment is awaited once, by the function for its moment. -/
theorem filterMap_awaited :
    a.entryLines.filterMap EntryLine.awaited? = a.scriptsOf .init ++ a.scriptsOf .ready := by
  rw [a.filterMap_entryLines fun _ => rfl, ← a.map_script_filter_moments (by decide),
    ← a.map_script_filter_moments (by decide)]
  simp [Function.comp_def, EntryLine.awaited?]

/-- The body of every generated handler stands there once, line after line. -/
theorem filterMap_body :
    a.entryLines.filterMap EntryLine.body? =
      a.generatedHandlers.flatMap fun h => (List.range h.bodyLines.length).map (h, ·) := by
  rw [a.filterMap_entryLines fun _ => rfl]
  simp [Function.comp_def, EntryLine.body?]

end App

/-! ## The first line of a handler -/

/-- Lines in front of the handlers belong to scripts. -/
theorem App.owner_of_mem_leadingLines {a : App} {l : EntryLine} (hl : l ∈ a.leadingLines)
    {line : Nat} {owner : String} (hp : l.place? = some (line, owner)) :
    owner ∈ a.scripts.map (·.id) := by
  -- a line that stands for a script belongs to it
  have hscript : ∀ s ∈ a.scripts, some (s.span.start.line, s.id) = some (line, owner) →
      owner ∈ a.scripts.map (·.id) := by
    intro s hs heq
    obtain ⟨-, rfl⟩ := Prod.mk.inj (Option.some.inj heq)
    exact List.mem_map_of_mem hs
  have hawait : ∀ name : String, ∀ p : MomentScript → Bool,
      l ∈ awaitLines name (a.moments.filter p) → owner ∈ a.scripts.map (·.id) := by
    intro name p hl
    unfold awaitLines at hl
    split at hl
    · exact absurd hl List.not_mem_nil
    · simp only [List.mem_append, List.mem_cons, List.not_mem_nil, or_false, List.mem_map] at hl
      rcases hl with (rfl | ⟨m, hm, rfl⟩) | rfl
      · exact absurd hp (by simp [EntryLine.place?])
      · exact hscript _ (script_mem_of_mem_moments (List.mem_filter.mp hm).1) hp
      · exact absurd hp (by simp [EntryLine.place?])
  -- scaffolding, imports, merges, imports that run later, and the two sections that await
  simp only [leadingLines, List.mem_append] at hl
  rcases hl with ((((hl | hl) | hl) | hl) | hl) | hl
  · obtain ⟨c, -, rfl⟩ := List.mem_map.mp hl
    exact absurd hp (by simp [EntryLine.place?])
  · obtain ⟨s, hs, rfl⟩ := List.mem_map.mp hl
    exact hscript _ (script_mem_of_mem_loaded hs) hp
  · unfold mergeLines at hl
    split at hl
    · exact absurd hl List.not_mem_nil
    · rcases List.mem_append.mp hl with hl | hl
      · obtain ⟨s, -, rfl⟩ := List.mem_map.mp hl
        exact absurd hp (by simp [EntryLine.place?])
      · obtain ⟨s, hs, rfl⟩ := List.mem_map.mp hl
        exact hscript _ (script_mem_of_mem_loaded hs) hp
  · obtain ⟨m, hm, rfl⟩ := List.mem_map.mp hl
    exact hscript _ (script_mem_of_mem_moments hm) hp
  · exact hawait _ _ hl
  · exact hawait _ _ hl

/-- Lines of the function of a handler belong to the handler. -/
theorem Handler.owner_of_mem_entryLines {h : Handler} {l : EntryLine} (hl : l ∈ h.entryLines)
    {line : Nat} {owner : String} (hp : l.place? = some (line, owner)) : owner = h.id := by
  simp only [entryLines, List.mem_append, List.mem_cons, List.not_mem_nil, or_false,
    List.mem_map] at hl
  rcases hl with (rfl | rfl | ⟨j, -, rfl⟩) | rfl
  · exact absurd hp (by simp [EntryLine.place?])
  · exact absurd hp (by simp [EntryLine.place?])
  · exact (Prod.mk.inj (Option.some.inj hp)).2.symm
  · exact absurd hp (by simp [EntryLine.place?])

/-- The body of a handler begins behind two lines of scaffolding. -/
theorem Handler.entryLines_eq_cons (h : Handler) :
    ∃ comment opening back,
      h.entryLines = .scaffold comment :: .scaffold opening :: .body h 0 :: back := by
  obtain ⟨k, hk⟩ : ∃ k, h.bodyLines.length = k + 1 :=
    Nat.exists_eq_succ_of_ne_zero (mt List.length_eq_zero_iff.mp h.bodyLines_ne_nil)
  refine ⟨"// " ++ h.description ++ " (line " ++ decimal h.element.line ++ ")", h.opening,
    (List.range k).map (.body h ∘ Nat.succ) ++ [.scaffold "\x7d"], ?_⟩
  rw [entryLines, hk, List.range_succ_eq_map, List.map_cons, List.map_map]
  rfl

namespace App

variable {a : App}

theorem entryLine?_of_append {front back : List EntryLine} {l : EntryLine}
    (h : a.entryLines = front ++ l :: back) : a.entryLine? (front.length + 1) = some l := by
  rw [entryLine?, if_neg (Nat.succ_ne_zero _), h, Nat.add_sub_cancel,
    List.getElem?_append_right (Nat.le_refl _), Nat.sub_self, List.getElem?_cons_zero]

theorem le_length_of_entryLine? {l : EntryLine} {n : Nat} (hl : a.entryLine? n = some l) :
    n ≤ a.entryLines.length := by
  rw [entryLine?] at hl
  split at hl
  · exact absurd hl (by simp)
  · have hlt := (List.getElem?_eq_some_iff.mp hl).1
    omega

theorem mem_of_entryLine? {front back : List EntryLine} {l : EntryLine} {n : Nat}
    (h : a.entryLines = front ++ back) (hn : n ≤ front.length) (hl : a.entryLine? n = some l) :
    l ∈ front := by
  rw [entryLine?] at hl
  split at hl
  · exact absurd hl (by simp)
  · rw [h, List.getElem?_append_left (by omega)] at hl
    exact List.mem_of_getElem? hl

/-- Where all scripts and handlers have names of their own, the first line that the table knows of a
handler is the first line of its body. -/
theorem findOwner?_handler (hnodup : (a.scripts.map (·.id) ++ a.handlers.map (·.id)).Nodup)
    {h : Handler} (hh : h ∈ a.handlers) :
    ∃ n, a.entryLine? n = some (.body h 0) ∧
      a.generated.lineTable.findOwner? h.id =
        some (n, ⟨h.codeSpan.start.line, h.id, h.description⟩) := by
  obtain ⟨-, hids, hdisjoint⟩ := List.nodup_append.mp hnodup
  obtain ⟨before, after, hsplit⟩ := List.append_of_mem hh
  obtain ⟨comment, opening, back, hfront⟩ := h.entryLines_eq_cons
  have hall : a.generatedHandlers = a.handlers :=
    firstHandlers_eq_self hids fun _ _ => List.not_mem_nil
  obtain ⟨rest, hlines⟩ : ∃ rest, a.entryLines =
      (a.leadingLines ++ before.flatMap Handler.entryLines
        ++ [.scaffold comment, .scaffold opening]) ++ .body h 0 :: rest := by
    refine ⟨back ++ (after.flatMap Handler.entryLines ++ scaffolding (registrySection
      (registryMembers a.moments a.generatedHandlers))), ?_⟩
    rw [entryLines, hall, hsplit, List.flatMap_append, List.flatMap_cons, hfront]
    simp only [List.append_assoc, List.cons_append, List.nil_append]
  have hline := entryLine?_of_append hlines
  refine ⟨_, hline, ?_⟩
  refine LineTable.findOwner?_eq_some (o := ⟨h.codeSpan.start.line, h.id, h.description⟩)
    (LineTable.get?_eq_some_iff.mp ?_) ?_
  · rw [a.get?_lineTable, hline]
    rfl
  · rintro ⟨n, o⟩ hmem howner
    have howner : o.owner = h.id := howner
    -- an earlier line of the table would belong to a script or to a handler before this one
    by_contra hlt
    have hget := LineTable.get?_eq_some_iff.mpr hmem
    rw [a.get?_lineTable] at hget
    obtain ⟨l, hl, horigin⟩ := Option.bind_eq_some_iff.mp hget
    have hp : l.place? = some (o.line, h.id) := by
      rw [← l.origin_codeLine a.sourceId, horigin, ← howner]
      rfl
    have hlfront := mem_of_entryLine? hlines (by simp only at hlt; omega) hl
    rcases List.mem_append.mp hlfront with hlfront | hlfront
    · rcases List.mem_append.mp hlfront with hlfront | hlfront
      · exact hdisjoint _ (owner_of_mem_leadingLines hlfront hp) _ (List.mem_map_of_mem hh) rfl
      · obtain ⟨b, hb, hlb⟩ := List.mem_flatMap.mp hlfront
        rw [hsplit, List.map_append, List.nodup_append] at hids
        exact hids.2.2 _ (List.mem_map_of_mem hb) h.id (by simp)
          (Handler.owner_of_mem_entryLines hlb hp).symm
    · simp only [List.mem_cons, List.not_mem_nil, or_false] at hlfront
      rcases hlfront with rfl | rfl <;> exact absurd hp (by simp [EntryLine.place?])

/-- A line of a body is a line of the code of its handler. -/
theorem LabelsOnOneLine.body_of_entryLine? (ha : a.LabelsOnOneLine) {n j : Nat} {h : Handler}
    (hl : a.entryLine? n = some (.body h j)) :
    ∃ line,
      (Text.pieces (Text.trimRight (· = '\n') (Text.unifyFeeds h.code.toList)))[j]? = some line ∧
      (Text.pieces a.generated.entry.toList)[n - 1]? = some line ∧
      a.generated.lineTable.get? n = some ⟨h.codeSpan.start.line + j, h.id, h.description⟩ := by
  have hj : j < h.bodyLines.length := by
    have hmem : (h, j) ∈ a.entryLines.filterMap EntryLine.body? :=
      List.mem_filterMap.mpr ⟨_, mem_of_entryLine? (List.append_nil _).symm
        (le_length_of_entryLine? hl) hl, rfl⟩
    rw [a.filterMap_body] at hmem
    obtain ⟨h', -, hpair⟩ := List.mem_flatMap.mp hmem
    obtain ⟨i, hi, heq⟩ := List.mem_map.mp hpair
    obtain ⟨rfl, rfl⟩ := Prod.mk.inj heq
    exact List.mem_range.mp hi
  have hpieces : (Text.pieces (Text.trimRight (· = '\n') (Text.unifyFeeds h.code.toList)))[j]? =
      some (h.bodyLines[j]).toList := by
    have hbody : h.bodyLines.map String.toList =
        Text.pieces (Text.trimRight (· = '\n') (Text.unifyFeeds h.code.toList)) :=
      h.map_toList_bodyLines
    rw [← hbody, List.getElem?_map, List.getElem?_eq_getElem hj]
    rfl
  refine ⟨_, hpieces, ?_, ?_⟩
  · rw [ha.getElem?_pieces_entry hl, EntryLine.text_body hj]
  · rw [a.get?_lineTable, hl]
    rfl

/-- The line table of the entry is exact. The entry falls apart into its lines; the table gives the
line with a number the line of the app file that it repeats and the owner, and scaffolding nothing;
the lines that repeat something import every script, merge every script that is loaded with the
app, await every script that runs at a fixed moment, and are the bodies of the handlers that are the
first with their names, whose text they hold. So the first line that is known of a handler is the
first line of its body, where all names differ. -/
theorem LabelsOnOneLine.lineTable_exact (ha : a.LabelsOnOneLine) :
    Text.pieces a.generated.entry.toList =
        a.entryLines.map (fun l => (l.text a.sourceId).toList) ++ [[]] ∧
      (∀ n, (a.generated.lineTable.get? n).map (fun o => (o.line, o.owner)) =
        (a.entryLine? n).bind EntryLine.place?) ∧
      a.entryLines.filterMap EntryLine.imported? =
        a.scriptsOf .sync ++ a.scripts.filter (·.kind ≠ .sync) ∧
      a.entryLines.filterMap EntryLine.merged? = a.scriptsOf .sync ∧
      a.entryLines.filterMap EntryLine.awaited? = a.scriptsOf .init ++ a.scriptsOf .ready ∧
      a.entryLines.filterMap EntryLine.body? =
        a.generatedHandlers.flatMap (fun h => (List.range h.bodyLines.length).map (h, ·)) ∧
      (a.generatedHandlers.Sublist a.handlers ∧ (a.generatedHandlers.map (·.id)).Nodup ∧
        ∀ h, h ∈ a.generatedHandlers ↔
          ∃ before after, a.handlers = before ++ h :: after ∧ ∀ b ∈ before, b.id ≠ h.id) ∧
      (∀ n h j, a.entryLine? n = some (.body h j) →
        ∃ line,
          (Text.pieces (Text.trimRight (· = '\n') (Text.unifyFeeds h.code.toList)))[j]? =
            some line ∧
          (Text.pieces a.generated.entry.toList)[n - 1]? = some line ∧
          a.generated.lineTable.get? n =
            some ⟨h.codeSpan.start.line + j, h.id, h.description⟩) ∧
      ((a.scripts.map (·.id) ++ a.handlers.map (·.id)).Nodup → ∀ h ∈ a.handlers,
        ∃ n, a.entryLine? n = some (.body h 0) ∧
          a.generated.lineTable.findOwner? h.id =
            some (n, ⟨h.codeSpan.start.line, h.id, h.description⟩)) := by
  refine ⟨ha.pieces_entry, fun n => ?_, a.filterMap_imported, a.filterMap_merged,
    a.filterMap_awaited, a.filterMap_body,
    ⟨firstHandlers_sublist [] _, nodup_firstHandlers [] _, fun h => ?_⟩,
    fun n h j hl => ha.body_of_entryLine? hl, fun hnodup h hh => findOwner?_handler hnodup hh⟩
  · rw [a.get?_lineTable, Option.map_bind]
    exact congrArg (Option.bind (a.entryLine? n)) (funext fun l => l.origin_codeLine a.sourceId)
  · rw [generatedHandlers, mem_firstHandlers]
    exact and_iff_right List.not_mem_nil

end App

/-- An app with two scripts and a handler of two lines. -/
def counterApp : App where
  sourceId := "file:///apps/counter.melker"
  content :=
    "<melker>\n<script id=\"s\">\nlet n = 0;\n</script>\n<button onClick=\"n++;\nshow(n);\"/>\n"
  template := "<melker>\n<button onClick=\"n++;\nshow(n);\"/>\n"
  scripts := [
    ⟨"script0", .sync, "\nlet n = 0;\n", none, false, ⟨⟨2, 0, 9⟩, ⟨4, 0, 38⟩⟩⟩,
    ⟨"script1", .ready, "", some "./shown.ts", false, ⟨⟨4, 9, 47⟩, ⟨4, 9, 47⟩⟩⟩]
  handlers := [
    ⟨"click0", "onClick", "n++;\r\nshow(n);\r\n", false, ["event"],
      ⟨⟨2, 8, 17⟩, ⟨3, 9, 41⟩⟩, ⟨⟨5, 17, 64⟩, ⟨6, 8, 77⟩⟩, ⟨"button", none, 5⟩⟩]

theorem counterApp_labelsOnOneLine : counterApp.LabelsOnOneLine := by
  intro h hh
  rw [List.mem_singleton.mp hh]
  exact {
    id := .ofChars (by decide)
    params := fun p hp => List.mem_singleton.mp hp ▸ .ofChars (by decide)
    attr := .ofChars (by decide)
    tag := .ofChars (by decide)
    element := fun _ hid => absurd hid (by simp) }

/-- The two lines of the body are lines 22 and 23 of the entry, with the call that merges the first
script on line 15. -/
theorem counterApp_lineTable :
    counterApp.LabelsOnOneLine ∧
      (counterApp.generated.lineTable.get? 15).map (fun o => (o.line, o.owner)) =
        some (2, "script0") ∧
      (counterApp.generated.lineTable.get? 22).map (fun o => (o.line, o.owner)) =
        some (5, "click0") ∧
      (counterApp.generated.lineTable.get? 23).map (fun o => (o.line, o.owner)) =
        some (6, "click0") ∧
      (counterApp.generated.lineTable.get? 24).map (fun o => (o.line, o.owner)) = none := by
  obtain ⟨-, htable, -⟩ := counterApp_labelsOnOneLine.lineTable_exact
  refine ⟨counterApp_labelsOnOneLine, ?_, ?_, ?_, ?_⟩
  all_goals
    rw [htable]
    rfl

end AppBundle
