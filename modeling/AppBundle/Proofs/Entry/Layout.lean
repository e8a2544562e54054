import AppBundle.Generated.Entry
import AppBundle.Proofs.Text.Lines

/-!
# The lines of the entry module, by what they are

A line of the entry imports a script, merges what a script exports, awaits a script, is a line of
the body of a handler, or is scaffolding. `App.entryLines` lists what the lines are, without a line
number in it; where a line comes from is then a matter of what it is (`EntryLine.place?`).

The text of the entry falls apart into exactly these lines (`pieces_entry`) as long as the labels of
handlers are on one line each; everything else that goes into a line is escaped, numeric, or cut at
its line feeds.
-/

namespace AppBundle

/-- A line of the entry module, by what it is. -/
inductive EntryLine where
  /-- A line that repeats nothing of the app file. -/
  | scaffold (text : String)
  /-- The import of a script that is loaded with the app. -/
  | loadedImport (l : LoadedScript)
  /-- The call that merges what a script exports. -/
  | merge (l : LoadedScript)
  /-- The import of a script that runs at a fixed moment. -/
  | momentImport (m : MomentScript)
  /-- The line that awaits a script. -/
  | await (m : MomentScript)
  /-- The line of the body of a handler with the given number, counted from zero. -/
  | body (h : Handler) (j : Nat)

namespace EntryLine

/-- The line as it is generated for an app file. -/
def codeLine (sourceId : String) : EntryLine → CodeLine
  | scaffold text => .plain text
  | loadedImport l => l.importLine sourceId
  | merge l => l.mergeLine
  | momentImport m => m.importLine
  | await m => m.awaitLine
  | body h j => ⟨h.bodyLines.getD j "", some ⟨h.codeSpan.start.line + j, h.id, h.description⟩⟩

/-- The text of a line. -/
def text (sourceId : String) (l : EntryLine) : String :=
  (l.codeLine sourceId).text

/-- The line of the app file that a line repeats, and the script or handler that it belongs to. -/
def place? : EntryLine → Option (Nat × String)
  | scaffold _ => none
  | loadedImport l => some (l.script.span.start.line, l.script.id)
  | merge l => some (l.script.span.start.line, l.script.id)
  | momentImport m => some (m.script.span.start.line, m.script.id)
  | await m => some (m.script.span.start.line, m.script.id)
  | body h j => some (h.codeSpan.start.line + j, h.id)

/-- The script that a line imports. -/
def imported? : EntryLine → Option Script
  | loadedImport l => some l.script
  | momentImport m => some m.script
  | _ => none

/-- The script whose exports a line merges. -/
def merged? : EntryLine → Option Script
  | merge l => some l.script
  | _ => none

/-- The script that a line awaits. -/
def awaited? : EntryLine → Option Script
  | await m => some m.script
  | _ => none

/-- The handler whose body a line is part of, with the number of the line in the body. -/
def body? : EntryLine → Option (Handler × Nat)
  | body h j => some (h, j)
  | _ => none

end EntryLine

/-- Lines that come from nowhere. -/
def scaffolding (ls : List CodeLine) : List EntryLine :=
  ls.map (.scaffold ·.text)

/-- The lines of the function that merges exports and of its calls. -/
def mergeLines (ls : List LoadedScript) : List EntryLine :=
  if ls.isEmpty then [] else mergeFunction.map .scaffold ++ ls.map .merge

/-- The lines of the function that awaits scripts in turn. -/
def awaitLines (name : String) (ms : List MomentScript) : List EntryLine :=
  if ms.isEmpty then []
  else
    .scaffold ("async function " ++ name ++ "() \x7b") :: ms.map .await ++ [.scaffold "\x7d"]

/-- The lines of the function of a handler. -/
def Handler.entryLines (h : Handler) : List EntryLine :=
  .scaffold ("// " ++ h.description ++ " (line " ++ decimal h.element.line ++ ")")
    :: .scaffold h.opening :: (List.range h.bodyLines.length).map (.body h) ++ [.scaffold "\x7d"]

namespace App

variable (a : App)

/-- The lines of the entry in front of the handlers. -/
def leadingLines : List EntryLine :=
  scaffolding (contextSection a.sourceId)
    ++ a.loaded.map .loadedImport
    ++ mergeLines a.loaded
    ++ a.moments.map .momentImport
    ++ awaitLines initName (a.moments.filter (·.script.kind = .init))
    ++ awaitLines readyName (a.moments.filter (·.script.kind = .ready))

/-- The lines of the entry. -/
def entryLines : List EntryLine :=
  a.leadingLines
    ++ a.generatedHandlers.flatMap Handler.entryLines
    ++ scaffolding (registrySection (registryMembers a.moments a.generatedHandlers))

/-- What the line of the entry with a number is, counted from one. -/
def entryLine? (n : Nat) : Option EntryLine :=
  if n = 0 then none else a.entryLines[n - 1]?

end App

/-! ## The lines that are generated -/

theorem LoadedScript.origin_importLine (sourceId : String) (l : LoadedScript) :
    (l.importLine sourceId).origin.map (fun o => (o.line, o.owner)) =
      some (l.script.span.start.line, l.script.id) := by
  unfold LoadedScript.importLine
  split <;> rfl

namespace EntryLine

/-- A generated line comes from the place of what it is. -/
theorem origin_codeLine (sourceId : String) (l : EntryLine) :
    (l.codeLine sourceId).origin.map (fun o => (o.line, o.owner)) = l.place? := by
  cases l with
  | loadedImport l => exact l.origin_importLine sourceId
  | _ => rfl

@[simp] theorem text_scaffold (sourceId s : String) : (scaffold s).text sourceId = s := rfl

theorem text_body {h : Handler} {j : Nat} (hj : j < h.bodyLines.length) (sourceId : String) :
    (body h j).text sourceId = h.bodyLines[j] := by
  have hget : ∀ ls : List String, (hlt : j < ls.length) → ls.getD j "" = ls[j] := by
    intro ls hlt
    simp [hlt]
  simp only [text, codeLine]
  exact hget h.bodyLines hj

@[simp] theorem codeLine_comp_scaffold (sourceId : String) :
    codeLine sourceId ∘ scaffold = .plain := rfl

@[simp] theorem codeLine_comp_loadedImport (sourceId : String) :
    codeLine sourceId ∘ loadedImport = LoadedScript.importLine sourceId := rfl

@[simp] theorem codeLine_comp_merge (sourceId : String) :
    codeLine sourceId ∘ merge = LoadedScript.mergeLine := rfl

@[simp] theorem codeLine_comp_momentImport (sourceId : String) :
    codeLine sourceId ∘ momentImport = MomentScript.importLine := rfl

@[simp] theorem codeLine_comp_await (sourceId : String) :
    codeLine sourceId ∘ await = MomentScript.awaitLine := rfl

end EntryLine

/-- The lines of a body from one of them on. -/
theorem Handler.bodyFrom_eq (h : Handler) {front rest : List String}
    (hb : h.bodyLines = front ++ rest) (sourceId : String) :
    h.bodyFrom (h.codeSpan.start.line + front.length) rest =
      (List.range' front.length rest.length).map (EntryLine.codeLine sourceId ∘ .body h) := by
  induction rest generalizing front with
  | nil => rfl
  | cons l rest ih =>
    have hnext := ih (show h.bodyLines = (front ++ [l]) ++ rest by simp [hb])
    have hl : h.bodyLines.getD front.length "" = l := by simp [hb]
    rw [List.length_append, List.length_singleton, ← Nat.add_assoc] at hnext
    rw [Handler.bodyFrom, hnext, List.length_cons, List.range'_succ, List.map_cons]
    simp only [Function.comp_apply, EntryLine.codeLine, hl]

theorem Handler.codeLines_eq (h : Handler) (sourceId : String) :
    h.codeLines = h.entryLines.map (EntryLine.codeLine sourceId) := by
  have hb := h.bodyFrom_eq (List.nil_append h.bodyLines).symm sourceId
  rw [List.length_nil, Nat.add_zero, ← List.range_eq_range'] at hb
  rw [Handler.codeLines, Handler.entryLines, hb]
  simp only [List.map_cons, List.map_append, List.map_map, List.map_nil]
  rfl

theorem awaitSection_eq (name : String) (ms : List MomentScript) (sourceId : String) :
    awaitSection name ms = (awaitLines name ms).map (EntryLine.codeLine sourceId) := by
  unfold awaitSection awaitLines
  split
  · rfl
  · simp only [List.map_cons, List.map_append, List.map_map, List.map_nil,
      EntryLine.codeLine_comp_await]
    rfl

theorem mergeSection_eq (ls : List LoadedScript) (sourceId : String) :
    mergeSection ls = (mergeLines ls).map (EntryLine.codeLine sourceId) := by
  unfold mergeSection mergeLines
  split
  · rfl
  · simp

/-- Lines that come from nowhere are scaffolding. -/
theorem eq_map_scaffold (ls : List CodeLine) (h : ∀ l ∈ ls, l.origin = none) (sourceId : String) :
    ls = (scaffolding ls).map (EntryLine.codeLine sourceId) := by
  rw [scaffolding, List.map_map]
  conv_lhs => rw [← List.map_id ls]
  refine List.map_congr_left fun l hl => ?_
  cases l with
  | mk text origin =>
    have ho : origin = none := h _ hl
    subst ho
    rfl

theorem origin_of_mem_contextSection {sourceId : String} {l : CodeLine}
    (hl : l ∈ contextSection sourceId) : l.origin = none := by
  simp only [contextSection, List.mem_cons, List.not_mem_nil, or_false] at hl
  rcases hl with rfl | rfl | rfl | rfl | rfl <;> rfl

theorem origin_of_mem_registrySection {members : List String} {l : CodeLine}
    (hl : l ∈ registrySection members) : l.origin = none := by
  unfold registrySection at hl
  split at hl
  · rw [List.mem_singleton.mp hl]; rfl
  · rcases List.mem_append.mp hl with hl | hl
    · rcases List.mem_cons.mp hl with rfl | hl
      · rfl
      · obtain ⟨m, -, rfl⟩ := List.mem_map.mp hl
        rfl
    · rw [List.mem_singleton.mp hl]; rfl

/-- The generated lines in front of the handlers are those that the entry is to have there. -/
theorem App.scriptLines_eq (a : App) :
    a.scriptLines = a.leadingLines.map (EntryLine.codeLine a.sourceId) := by
  have hcontext := eq_map_scaffold (contextSection a.sourceId)
    (fun _ h => origin_of_mem_contextSection h) a.sourceId
  simp only [App.leadingLines, List.map_append, List.map_map, ← awaitSection_eq, ← mergeSection_eq,
    ← hcontext, EntryLine.codeLine_comp_loadedImport, EntryLine.codeLine_comp_momentImport,
    App.scriptLines]

/-- The generated lines are those that the entry is to have. -/
theorem App.codeLines_eq (a : App) :
    a.codeLines = a.entryLines.map (EntryLine.codeLine a.sourceId) := by
  have hregistry := eq_map_scaffold
    (registrySection (registryMembers a.moments a.generatedHandlers))
    (fun _ h => origin_of_mem_registrySection h) a.sourceId
  have hhandlers : a.generatedHandlers.flatMap Handler.codeLines =
      (a.generatedHandlers.flatMap Handler.entryLines).map (EntryLine.codeLine a.sourceId) := by
    simp only [List.map_flatMap, ← Handler.codeLines_eq]
  simp only [App.entryLines, List.map_append, ← hregistry, ← hhandlers, App.codeLines,
    App.scriptLines_eq]

end AppBundle
