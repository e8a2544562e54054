import AppBundle.Proofs.Code.Reading

/-!
# Literals in generated code

What generated code takes over from references, it takes over as literals. The lines that import
scripts, and those that merge what they export, consist of one literal between two texts of fixed
words and numbers: whatever the reference holds, it ends where the literal ends, and the line ends
where the line was to end.
-/

namespace AppBundle

open Code

/-- A line of code that is a literal between two texts, and the literal stands for a string. -/
structure Quotes (line front value back : String) : Prop where
  literal : ∃ text, line.toList = front.toList ++ text ++ back.toList ∧ Denotes text value
  /-- No other literal is opened around it, -/
  front_quote : '"' ∉ front.toList
  back_quote : '"' ∉ back.toList
  /-- and nothing around it ends the line. -/
  around : InComment (front ++ back)
  feed : '\n' ∉ line.toList
  carriage : '\r' ∉ line.toList

/-- A text that opens no literal and ends no line. -/
def Inert (s : String) : Prop := Plain s ∧ InComment s

namespace Inert

variable {s t : String}

@[simp] theorem append_iff : Inert (s ++ t) ↔ Inert s ∧ Inert t := by
  unfold Inert
  rw [Plain.append_iff, InComment.append_iff]
  exact and_and_and_comm

/-- The form for literals. -/
theorem ofChars {cs : List Char}
    (h : cs.all (fun c => escapeChar c == [c] && !endsComment c) = true) :
    Inert (String.ofList cs) := by
  simp only [List.all_eq_true, Bool.and_eq_true] at h
  refine ⟨.ofChars (List.all_eq_true.mpr fun c hc => (h c hc).1), .ofChars ?_⟩
  rw [List.any_eq_false]
  intro c hc
  simpa using (h c hc).2

@[simp] theorem decimal (n : Nat) : Inert (decimal n) := ⟨.decimal n, .decimal n⟩

theorem quote_notMem (h : Inert s) : '"' ∉ s.toList :=
  fun hmem => absurd (h.1 _ hmem) (by decide)

end Inert

/-- A literal between two such texts. -/
theorem quotes_literal {front back : String} (value : String) (hfront : Inert front)
    (hback : Inert back) : Quotes (front ++ Code.literal value ++ back) front value back := by
  have hdenotes := denotes_literal value
  have hends : ∀ c, endsComment c = true → c ∉ (Code.literal value).toList →
      c ∉ (front ++ Code.literal value ++ back).toList := by
    intro c hc hliteral hmem
    have haround : ∀ {s : String}, Inert s → c ∉ s.toList := by
      intro s hs h
      rw [hs.2 c h] at hc
      exact absurd hc (by decide)
    rw [String.toList_append, String.toList_append, List.mem_append, List.mem_append] at hmem
    rcases hmem with (hmem | hmem) | hmem
    · exact haround hfront hmem
    · exact hliteral hmem
    · exact haround hback hmem
  exact {
    literal := ⟨_, by simp, hdenotes⟩
    front_quote := hfront.quote_notMem
    back_quote := hback.quote_notMem
    around := InComment.append_iff.mpr ⟨hfront.2, hback.2⟩
    feed := hends '\n' (by decide) hdenotes.feed
    carriage := hends '\r' (by decide) hdenotes.carriage }

/-- The line of an import is the literal of what it names. -/
theorem EntryImport.quotes_line {i : EntryImport} (hclause : Inert i.clause) :
    Quotes i.line ("import " ++ i.clause ++ " from ") i.target ";" := by
  refine quotes_literal i.target ?_ (.ofChars (by decide))
  simp only [Inert.append_iff]
  exact ⟨⟨.ofChars (by decide), hclause⟩, .ofChars (by decide)⟩

theorem inert_momentName (kind : Timing) (n : Nat) : Inert (momentName kind n) := by
  have hword : Inert kind.word := by cases kind <;> exact .ofChars (by decide)
  unfold momentName
  simp only [Inert.append_iff]
  exact ⟨⟨⟨.ofChars (by decide), hword⟩, .ofChars (by decide)⟩, .decimal n⟩

namespace App

variable (a : App)

/-! ## Where the lines stand -/

theorem getElem?_frontLines {n : Nat} {line : String} (h : a.frontLines[n]? = some line) :
    (Text.pieces a.generated.entry.toList)[n]? = some line.toList := by
  have hlt : n < (a.frontLines.map String.toList).length := by
    rw [List.length_map]
    exact (List.getElem?_eq_some_iff.mp h).1
  rw [pieces_entry_front, List.getElem?_append_left hlt, List.getElem?_map, h]
  rfl

/-- The imports of the scripts that are loaded follow the five lines of the context. -/
theorem getElem?_loadedImport {n : Nat} {s : Script} (hs : (a.scriptsOf .sync)[n]? = some s) :
    a.frontLines[5 + n]? =
      some (EntryImport.line ⟨"* as __script_" ++ decimal n, a.loadedTarget n s⟩) := by
  have hcontext : ((contextSection a.sourceId).map (·.text)).length = 5 := rfl
  have himport : (a.loadedImports.map (·.line))[n]? =
      some (EntryImport.line ⟨"* as __script_" ++ decimal n, a.loadedTarget n s⟩) := by
    rw [loadedImports, List.getElem?_map, List.getElem?_mapIdx, hs]
    rfl
  have hlt := (List.getElem?_eq_some_iff.mp himport).1
  unfold frontLines
  rw [List.append_assoc, List.append_assoc, List.append_assoc, List.append_assoc,
    List.getElem?_append_right (by omega), hcontext, Nat.add_sub_cancel_left,
    List.getElem?_append_left hlt, himport]

/-- The calls that merge what they export follow them and the eight lines of the function. -/
theorem getElem?_mergeCall {n : Nat} {s : Script} (hs : (a.scriptsOf .sync)[n]? = some s) :
    a.frontLines[13 + (a.scriptsOf .sync).length + n]? =
      some ("__melkerMergeExports($app, __script_" ++ decimal n ++ ", "
        ++ Code.literal (s.reference.getD (a.loadedFile n)) ++ ");") := by
  have hcontext : ((contextSection a.sourceId).map (·.text)).length = 5 := rfl
  have hfunction : mergeFunction.length = 8 := rfl
  have hcall : a.mergeCalls[n]? =
      some ("__melkerMergeExports($app, __script_" ++ decimal n ++ ", "
        ++ Code.literal (s.reference.getD (a.loadedFile n)) ++ ");") := by
    rw [mergeCalls, List.getElem?_mapIdx, hs]
    rfl
  have hlt := (List.getElem?_eq_some_iff.mp hcall).1
  have hne : ¬(a.scriptsOf .sync).isEmpty := by
    intro hempty
    rw [List.isEmpty_iff.mp hempty] at hs
    exact absurd hs (by simp)
  have hfront : ((contextSection a.sourceId).map (·.text) ++ a.loadedImports.map (·.line)
      ++ mergeFunction).length = 13 + (a.scriptsOf .sync).length := by
    rw [List.length_append, List.length_append, hcontext, hfunction, loadedImports,
      List.length_map, List.length_mapIdx]
    omega
  unfold frontLines
  rw [if_neg hne, ← List.append_assoc, List.append_assoc, List.append_assoc, List.append_assoc,
    List.getElem?_append_right (by omega), hfront, Nat.add_sub_cancel_left,
    List.getElem?_append_left hlt, hcall]

/-! ## All of them -/

/-- What the lines of an app that name scripts stand for. -/
structure Quoted : Prop where
  /-- The import of a script that is loaded names where the script is: what its reference is
  resolved to, if it is kept outside. -/
  imported {n : Nat} {s : Script} (hs : (a.scriptsOf .sync)[n]? = some s) :
    ∃ line, (Text.pieces a.generated.entry.toList)[5 + n]? = some line.toList ∧
      Quotes line ("import * as __script_" ++ decimal n ++ " from ") (a.loadedTarget n s) ";"
  /-- The call that merges what it exports names the reference, or the file of the script. -/
  merged {n : Nat} {s : Script} (hs : (a.scriptsOf .sync)[n]? = some s) :
    ∃ line,
      (Text.pieces a.generated.entry.toList)[13 + (a.scriptsOf .sync).length + n]? =
        some line.toList ∧
      Quotes line ("__melkerMergeExports($app, __script_" ++ decimal n ++ ", ")
        (s.reference.getD (a.loadedFile n)) ");"
  /-- The import of a script that runs at a fixed moment names the file of its module. -/
  moment : ∀ i ∈ a.momentImports,
    ∃ line, line.toList ∈ Text.pieces a.generated.entry.toList ∧
      Quotes line ("import " ++ i.clause ++ " from ") i.target ";"
  /-- If such a script is kept outside, its module imports what its reference is resolved to. -/
  outside {s : Script} {n : Nat} {reference : String} (hs : (s, n) ∈ a.ordinals)
    (hk : s.kind ≠ .sync) (hr : s.reference = some reference) :
    ∃ m ∈ a.generated.modules, m.file = momentFile s.kind n ∧
      ∃ line, (Text.pieces m.content.toList)[3]? = some line.toList ∧
        Quotes line "import * as __external from " (absoluteReference a.sourceId reference) ";"

theorem quoted : a.Quoted where
  imported {n s} hs := by
    refine ⟨_, a.getElem?_frontLines (a.getElem?_loadedImport hs), ?_⟩
    have hclause : Inert ("* as __script_" ++ decimal n) := by
      rw [Inert.append_iff]
      exact ⟨.ofChars (by decide), .decimal n⟩
    have hline := EntryImport.quotes_line (i := ⟨_, a.loadedTarget n s⟩) hclause
    have hfront : "import * as __script_" ++ decimal n ++ " from " =
        "import " ++ ("* as __script_" ++ decimal n) ++ " from " := by
      rw [← String.toList_inj]
      simp
    rw [hfront]
    exact hline
  merged {n s} hs := by
    refine ⟨_, a.getElem?_frontLines (a.getElem?_mergeCall hs), ?_⟩
    refine quotes_literal _ ?_ (.ofChars (by decide))
    simp only [Inert.append_iff]
    exact ⟨⟨.ofChars (by decide), .decimal n⟩, .ofChars (by decide)⟩
  moment i hi := by
    have hmem : i.line ∈ a.frontLines := by
      simp only [frontLines, List.mem_append]
      exact .inl (.inl (.inr (List.mem_map_of_mem hi)))
    obtain ⟨n, hn⟩ := List.getElem?_of_mem hmem
    refine ⟨i.line, List.mem_of_getElem? (a.getElem?_frontLines hn), ?_⟩
    obtain ⟨⟨s, n⟩, -, rfl⟩ := List.mem_map.mp hi
    refine EntryImport.quotes_line ?_
    simp only [Inert.append_iff]
    exact ⟨⟨.ofChars (by decide), inert_momentName _ _⟩, .ofChars (by decide)⟩
  outside {s n reference} hs hk hr := by
    obtain ⟨m, hm, hfile, -, hpieces⟩ := a.exists_momentModule hs hk
    refine ⟨m, hm, hfile, importAll "__external" (absoluteReference a.sourceId reference), ?_, ?_⟩
    · rw [hpieces, Script.outsideImport, hr]
      rfl
    · have hfront : Inert "import * as __external from " := .ofChars (by decide)
      exact quotes_literal (absoluteReference a.sourceId reference) hfront (.ofChars (by decide))

end App

/-- Literals are safe: what is written for a string is one literal that stands for this string and
for no other, and so is what generated code holds of references. -/
theorem literals_safe :
    (∀ s : String, Denotes ('"' :: (escape s).toList ++ ['"']) s) ∧
      Function.Injective escape ∧ ∀ a : App, a.Quoted := by
  refine ⟨fun s => ?_, escape_injective, App.quoted⟩
  rw [← toList_literal]
  exact denotes_literal s

end AppBundle
