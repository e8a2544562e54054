import AppBundle.Proofs.Entry.Layout
import AppBundle.Proofs.Entry.Parts

/-!
# The text of the entry module

Every line of the entry stands on one line, if the labels of its handlers do: what else goes into a
line is escaped, numeric, or cut at its line feeds. So the text of the entry falls apart into the
lines that it was put together from.
-/

namespace AppBundle

/-- The labels of a handler that go into the entry as they are stand on one line. -/
structure Handler.LabelsOnOneLine (h : Handler) : Prop where
  id : OneLine h.id
  params : ∀ p ∈ h.params, OneLine p
  attr : OneLine h.attr
  tag : OneLine h.element.tag
  element : ∀ id ∈ h.element.id, OneLine id

/-- The labels of all handlers stand on one line. -/
def App.LabelsOnOneLine (a : App) : Prop :=
  ∀ h ∈ a.handlers, h.LabelsOnOneLine

/-! ## The lines of scripts -/

theorem oneLine_onOneLine (s : String) : OneLine (onOneLine s) := by
  rw [onOneLine, OneLine.ofList_iff]
  intro h
  obtain ⟨c, -, hc⟩ := List.mem_map.mp h
  split_ifs at hc with hcond
  · exact absurd hc (by decide)
  · simp [hc] at hcond

theorem oneLine_initName : OneLine initName := .ofChars (by decide)

theorem oneLine_readyName : OneLine readyName := .ofChars (by decide)

theorem oneLine_registryName : OneLine registryName := .ofChars (by decide)

theorem oneLine_of_mem_contextSection {sourceId : String} {l : CodeLine}
    (hl : l ∈ contextSection sourceId) : OneLine l.text := by
  simp only [contextSection, List.mem_cons, List.not_mem_nil, or_false] at hl
  rcases hl with rfl | rfl | rfl | rfl | rfl
  · simp only [CodeLine.plain, OneLine.append_iff]
    exact ⟨⟨.ofChars (by decide), oneLine_onOneLine _⟩, .ofChars (by decide)⟩
  all_goals exact .ofChars (by decide)

theorem Timing.oneLine_word (k : Timing) : OneLine k.word := by
  cases k <;> exact .ofChars (by decide)

theorem oneLine_inlineFile (i : Nat) : OneLine (inlineFile i) := by
  simp only [inlineFile, OneLine.append_iff]
  exact ⟨⟨.ofChars (by decide), .decimal i⟩, .ofChars (by decide)⟩

theorem oneLine_momentName (k : Timing) (i : Nat) : OneLine (momentName k i) := by
  simp only [momentName, OneLine.append_iff]
  exact ⟨⟨⟨.ofChars (by decide), k.oneLine_word⟩, .ofChars (by decide)⟩, .decimal i⟩

theorem oneLine_momentFile (k : Timing) (i : Nat) : OneLine (momentFile k i) := by
  simp only [momentFile, OneLine.append_iff]
  exact ⟨⟨⟨⟨.ofChars (by decide), k.oneLine_word⟩, .ofChars (by decide)⟩, .decimal i⟩,
    .ofChars (by decide)⟩

theorem LoadedScript.oneLine_binding (l : LoadedScript) : OneLine l.binding := by
  simp only [binding, OneLine.append_iff]
  exact ⟨.ofChars (by decide), .decimal _⟩

theorem oneLine_importAll {binding : String} (hb : OneLine binding) (url : String) :
    OneLine (importAll binding url) := by
  show OneLine ("import * as " ++ binding ++ " from " ++ Code.literal url ++ ";")
  simp only [OneLine.append_iff]
  exact ⟨⟨⟨⟨.ofChars (by decide), hb⟩, .ofChars (by decide)⟩, .literal url⟩, .ofChars (by decide)⟩

theorem LoadedScript.oneLine_importLine (sourceId : String) (l : LoadedScript) :
    OneLine (l.importLine sourceId).text := by
  unfold importLine
  split
  · simp only [Script.codeLine, OneLine.append_iff]
    exact ⟨⟨⟨⟨.ofChars (by decide), l.oneLine_binding⟩, .ofChars (by decide)⟩,
      oneLine_inlineFile _⟩, .ofChars (by decide)⟩
  · exact oneLine_importAll l.oneLine_binding _

theorem LoadedScript.oneLine_mergeLine (l : LoadedScript) : OneLine l.mergeLine.text := by
  simp only [mergeLine, Script.codeLine, OneLine.append_iff]
  exact ⟨⟨⟨⟨.ofChars (by decide), l.oneLine_binding⟩, .ofChars (by decide)⟩, .literal _⟩,
    .ofChars (by decide)⟩

theorem MomentScript.oneLine_importLine (m : MomentScript) : OneLine m.importLine.text := by
  simp only [importLine, Script.codeLine, OneLine.append_iff]
  exact ⟨⟨⟨⟨.ofChars (by decide), oneLine_momentName _ _⟩, .ofChars (by decide)⟩,
    oneLine_momentFile _ _⟩, .ofChars (by decide)⟩

theorem MomentScript.oneLine_awaitLine (m : MomentScript) : OneLine m.awaitLine.text := by
  simp only [awaitLine, Script.codeLine, OneLine.append_iff]
  exact ⟨⟨.ofChars (by decide), oneLine_momentName _ _⟩, .ofChars (by decide)⟩

theorem oneLine_of_mem_mergeFunction {s : String} (hs : s ∈ mergeFunction) : OneLine s := by
  simp only [mergeFunction, List.mem_cons, List.not_mem_nil, or_false] at hs
  rcases hs with rfl | rfl | rfl | rfl | rfl | rfl | rfl | rfl
  all_goals exact .ofChars (by decide)

/-! ## The lines of handlers and of the registry -/

namespace Handler

variable {h : Handler}

theorem LabelsOnOneLine.oneLine_description (hh : h.LabelsOnOneLine) : OneLine h.description := by
  have hlabel : OneLine h.element.label := by
    unfold Element.label
    split
    · next id hid =>
      simp only [OneLine.append_iff]
      exact ⟨⟨⟨⟨.ofChars (by decide), hh.tag⟩, .ofChars (by decide)⟩, hh.element id hid⟩,
        .ofChars (by decide)⟩
    · simp only [OneLine.append_iff]
      exact ⟨⟨.ofChars (by decide), hh.tag⟩, .ofChars (by decide)⟩
  simp only [description, OneLine.append_iff]
  exact ⟨⟨hh.attr, .ofChars (by decide)⟩, hlabel⟩

theorem LabelsOnOneLine.oneLine_opening (hh : h.LabelsOnOneLine) : OneLine h.opening := by
  have hword : OneLine (if h.awaits then "async function " else "function ") := by
    split <;> exact .ofChars (by decide)
  simp only [opening, paramList, OneLine.append_iff]
  have hcomma : OneLine ", " := .ofChars (by decide)
  have hparams := hcomma.intercalate hh.params
  exact ⟨⟨⟨⟨hword, hh.id⟩, .ofChars (by decide)⟩, hparams⟩, .ofChars (by decide)⟩

/-- The code of a handler is cut at its line feeds. -/
theorem oneLine_of_mem_bodyLines {s : String} (hs : s ∈ h.bodyLines) : OneLine s := by
  obtain ⟨l, hl, rfl⟩ := List.mem_map.mp hs
  exact OneLine.ofList_iff.mpr (Text.feed_notMem_of_mem_pieces hl)

/-- A body has a line even if the code is empty. -/
theorem bodyLines_ne_nil (h : Handler) : h.bodyLines ≠ [] := by
  rw [bodyLines, Ne, List.map_eq_nil_iff]
  exact Text.split_ne_nil _ _

theorem oneLine_of_mem_entryLines (hh : h.LabelsOnOneLine) (sourceId : String) {l : EntryLine}
    (hl : l ∈ h.entryLines) : OneLine (l.text sourceId) := by
  simp only [entryLines, List.mem_append, List.mem_cons, List.not_mem_nil, or_false] at hl
  rcases hl with (rfl | rfl | hl) | rfl
  · rw [EntryLine.text_scaffold]
    simp only [OneLine.append_iff]
    exact ⟨⟨⟨⟨.ofChars (by decide), hh.oneLine_description⟩, .ofChars (by decide)⟩, .decimal _⟩,
      .ofChars (by decide)⟩
  · rw [EntryLine.text_scaffold]
    exact hh.oneLine_opening
  · obtain ⟨j, hj, rfl⟩ := List.mem_map.mp hl
    have hlt : j < h.bodyLines.length := List.mem_range.mp hj
    rw [EntryLine.text_body hlt]
    exact oneLine_of_mem_bodyLines (List.getElem_mem hlt)
  · rw [EntryLine.text_scaffold]
    exact .ofChars (by decide)

end Handler

/-- The members of the registry are fixed words and names of handlers. -/
theorem oneLine_of_mem_registryMembers {ms : List MomentScript} {hs : List Handler}
    (hh : ∀ h ∈ hs, OneLine h.id) {s : String} (hs : s ∈ registryMembers ms hs) : OneLine s := by
  rcases List.mem_append.mp hs with hs | hs
  · rcases List.mem_append.mp hs with hs | hs
    · split at hs
      · rw [List.mem_singleton.mp hs, OneLine.append_iff]
        exact ⟨.ofChars (by decide), oneLine_initName⟩
      · exact absurd hs List.not_mem_nil
    · split at hs
      · rw [List.mem_singleton.mp hs, OneLine.append_iff]
        exact ⟨.ofChars (by decide), oneLine_readyName⟩
      · exact absurd hs List.not_mem_nil
  · obtain ⟨h, hmem, rfl⟩ := List.mem_map.mp hs
    exact hh h hmem

theorem oneLine_of_mem_registrySection {members : List String} (hm : ∀ s ∈ members, OneLine s)
    {l : CodeLine} (hl : l ∈ registrySection members) : OneLine l.text := by
  unfold registrySection at hl
  split at hl
  · rw [List.mem_singleton.mp hl]
    simp only [CodeLine.plain, OneLine.append_iff]
    exact ⟨⟨.ofChars (by decide), oneLine_registryName⟩, .ofChars (by decide)⟩
  · rcases List.mem_append.mp hl with hl | hl
    · rcases List.mem_cons.mp hl with rfl | hl
      · simp only [CodeLine.plain, OneLine.append_iff]
        exact ⟨⟨.ofChars (by decide), oneLine_registryName⟩, .ofChars (by decide)⟩
      · obtain ⟨s, hs, rfl⟩ := List.mem_map.mp hl
        simp only [CodeLine.plain, OneLine.append_iff]
        exact ⟨⟨.ofChars (by decide), hm s hs⟩, .ofChars (by decide)⟩
    · rw [List.mem_singleton.mp hl]
      exact .ofChars (by decide)

/-! ## The whole entry -/

theorem oneLine_of_mem_mergeLines {ls : List LoadedScript} (sourceId : String) {l : EntryLine}
    (hl : l ∈ mergeLines ls) : OneLine (l.text sourceId) := by
  unfold mergeLines at hl
  split at hl
  · exact absurd hl List.not_mem_nil
  · rcases List.mem_append.mp hl with hl | hl
    · obtain ⟨s, hs, rfl⟩ := List.mem_map.mp hl
      rw [EntryLine.text_scaffold]
      exact oneLine_of_mem_mergeFunction hs
    · obtain ⟨m, -, rfl⟩ := List.mem_map.mp hl
      exact m.oneLine_mergeLine

theorem oneLine_of_mem_awaitLines {name : String} (hname : OneLine name) {ms : List MomentScript}
    (sourceId : String) {l : EntryLine} (hl : l ∈ awaitLines name ms) :
    OneLine (l.text sourceId) := by
  unfold awaitLines at hl
  split at hl
  · exact absurd hl List.not_mem_nil
  · rcases List.mem_append.mp hl with hl | hl
    · rcases List.mem_cons.mp hl with rfl | hl
      · simp only [EntryLine.text_scaffold, OneLine.append_iff]
        exact ⟨⟨.ofChars (by decide), hname⟩, .ofChars (by decide)⟩
      · obtain ⟨m, -, rfl⟩ := List.mem_map.mp hl
        exact m.oneLine_awaitLine
    · rw [List.mem_singleton.mp hl, EntryLine.text_scaffold]
      exact .ofChars (by decide)

namespace App

variable {a : App}

theorem oneLine_of_mem_leadingLines {l : EntryLine} (hl : l ∈ a.leadingLines) :
    OneLine (l.text a.sourceId) := by
  simp only [leadingLines, List.mem_append] at hl
  rcases hl with ((((hl | hl) | hl) | hl) | hl) | hl
  · obtain ⟨c, hc, rfl⟩ := List.mem_map.mp hl
    rw [EntryLine.text_scaffold]
    exact oneLine_of_mem_contextSection hc
  · obtain ⟨s, -, rfl⟩ := List.mem_map.mp hl
    exact s.oneLine_importLine a.sourceId
  · exact oneLine_of_mem_mergeLines a.sourceId hl
  · obtain ⟨m, -, rfl⟩ := List.mem_map.mp hl
    exact m.oneLine_importLine
  · exact oneLine_of_mem_awaitLines oneLine_initName a.sourceId hl
  · exact oneLine_of_mem_awaitLines oneLine_readyName a.sourceId hl

theorem LabelsOnOneLine.oneLine_of_mem_entryLines (ha : a.LabelsOnOneLine) {l : EntryLine}
    (hl : l ∈ a.entryLines) : OneLine (l.text a.sourceId) := by
  have hgen : ∀ h ∈ a.generatedHandlers, h.LabelsOnOneLine := fun h hmem =>
    ha h ((firstHandlers_sublist [] _).subset hmem)
  simp only [entryLines, List.mem_append] at hl
  rcases hl with (hl | hl) | hl
  · exact oneLine_of_mem_leadingLines hl
  · obtain ⟨h, hmem, hl⟩ := List.mem_flatMap.mp hl
    exact Handler.oneLine_of_mem_entryLines (hgen h hmem) a.sourceId hl
  · obtain ⟨c, hc, rfl⟩ := List.mem_map.mp hl
    rw [EntryLine.text_scaffold]
    exact oneLine_of_mem_registrySection
      (fun s hs => oneLine_of_mem_registryMembers (fun h hmem => (hgen h hmem).id) hs) hc

/-- The text of the entry falls apart into its lines; nothing follows the last line feed. -/
theorem LabelsOnOneLine.pieces_entry (ha : a.LabelsOnOneLine) :
    Text.pieces a.generated.entry.toList =
      a.entryLines.map (fun l => (l.text a.sourceId).toList) ++ [[]] := by
  show Text.pieces (entryText a.codeLines).toList = _
  rw [entryText, String.toList_ofList, a.codeLines_eq, List.map_map]
  refine Text.pieces_unlines fun cs hcs => ?_
  obtain ⟨l, hl, rfl⟩ := List.mem_map.mp hcs
  exact ha.oneLine_of_mem_entryLines hl

/-- The line of the entry with a number, counted from one, is what `entryLine?` says. -/
theorem LabelsOnOneLine.getElem?_pieces_entry (ha : a.LabelsOnOneLine) {n : Nat} {l : EntryLine}
    (hl : a.entryLine? n = some l) :
    (Text.pieces a.generated.entry.toList)[n - 1]? = some (l.text a.sourceId).toList := by
  unfold entryLine? at hl
  split at hl
  · exact absurd hl (by simp)
  · obtain ⟨hlt, hget⟩ := List.getElem?_eq_some_iff.mp hl
    rw [ha.pieces_entry, List.getElem?_append_left (by simpa using hlt), List.getElem?_map, hl]
    rfl

end App

end AppBundle
