import AppBundle.Proofs.Entry.Wiring
import AppBundle.Proofs.Import.Feeds
import AppBundle.Proofs.Import.Ranges
import AppBundle.Proofs.Text.Bytes
import Mathlib.Algebra.Ring.Int.Defs

/-!
# Where imports stand in modules

The code of a script follows the lines that its module begins with, so an import of the script stands
behind those lines and behind the code in front of it (`Import.StandsBehind`). It is at the top level
of the module if these lines leave no block open. They leave none open where a script is loaded with
the app. Where it runs at a fixed moment, they open the function that the whole code is put into, its
imports with it; only the import of a script kept outside stands above that function
(`App.imports_placed`).
-/

namespace AppBundle

/-! ## Blocks -/

/-- The blocks that are open behind the lines that a module begins with. The first of them is a
comment, which opens none. -/
def openBlocks (header : List String) : Int :=
  (header.tail.map fun l => (l.toList.count '\x7b' : Int) - l.toList.count '\x7d').sum

theorem openBlocks_append {header : List String} (hne : header ≠ []) (ls : List String) :
    openBlocks (header ++ ls) = openBlocks header + openBlocks ("" :: ls) := by
  obtain ⟨comment, header, rfl⟩ := List.exists_cons_of_ne_nil hne
  simp only [openBlocks, List.cons_append, List.tail_cons, List.map_append, List.sum_append]

namespace Script

variable (s : Script) (sourceId file : String)

/-- What every module begins with leaves no block open. -/
theorem openBlocks_header : openBlocks (s.header sourceId file) = 0 := by
  rw [header_eq]
  show openBlocks ["", contextLine, argumentsLine] = 0
  decide

/-- The lines around the code of a script that runs at a fixed moment open a function. -/
theorem openBlocks_exportLine (i : Nat) : openBlocks ["", s.exportLine i, exportsLine] = 1 := by
  have hcount : ∀ c : Char, c.isDigit = false → (s.exportLine i).toList.count c =
      "export async function ".toList.count c + ("__".toList.count c + s.kind.word.toList.count c
        + "_".toList.count c) + "() \x7b".toList.count c := by
    intro c hc
    have hdecimal : (decimal i).toList.count c = 0 :=
      List.count_eq_zero.mpr fun hmem => ne_of_mem_decimal hc hmem rfl
    unfold exportLine momentName
    simp only [String.toList_append, List.count_append, hdecimal, Nat.add_zero]
  have hopen : (s.exportLine i).toList.count '\x7b' = 1 := by
    rw [hcount _ (by decide)]
    cases s.kind <;> decide
  have hclose : (s.exportLine i).toList.count '\x7d' = 0 := by
    rw [hcount _ (by decide)]
    cases s.kind <;> decide
  have hlast : (exportsLine.toList.count '\x7b' : Int) - exportsLine.toList.count '\x7d' = 0 := by
    decide
  simp only [openBlocks, List.tail_cons, List.map_cons, List.map_nil, List.sum_cons, List.sum_nil,
    hopen, hclose, hlast]
  rfl

theorem content_momentModule_inline (i : Nat) (hinline : s.reference = none) :
    (s.momentModule sourceId i).1.content =
      moduleText (s.header sourceId (momentFile s.kind i) ++ [s.exportLine i, exportsLine])
        (s.moduleCode sourceId) (some "\x7d") := by
  rw [content_momentModule, header_eq, momentBody, outsideImport, hinline, List.append_nil,
    List.append_assoc]
  rfl

theorem content_momentModule_outside (i : Nat) {reference : String}
    (houtside : s.reference = some reference) :
    (s.momentModule sourceId i).1.content =
      moduleText (s.header sourceId (momentFile s.kind i)
        ++ [importAll "__external" (absoluteReference sourceId reference), s.exportLine i,
          exportsLine]) callOutside (some "\x7d") := by
  rw [content_momentModule, header_eq, momentBody, outsideImport, houtside, List.append_assoc,
    List.append_assoc]
  rfl

end Script

/-! ## Imports of a script -/

namespace Import

open AppBundle.Text

/-- Code of a script as it stands in the module of the script. -/
def movedText (sourceId : String) (cs : List Chunk) : List Char :=
  exchanged (resolveText sourceId) (unifyChunks cs)

theorem movedText_append_specifier (sourceId : String) (before : List Chunk) (s : List Char)
    (after : List Chunk) :
    movedText sourceId (before ++ .specifier s :: after) =
      movedText sourceId before ++ (resolveText sourceId s ++ movedText sourceId after) := by
  rw [movedText, unifyChunks_append_specifier, exchanged, List.flatMap_append]
  rfl

theorem toList_moduleCode (s : Script) (sourceId : String) :
    (s.moduleCode sourceId).toList = movedText sourceId (chunks s.code.toList) := by
  rw [Script.moduleCode, toList_resolveAll, withFeeds, String.toList_ofList, chunks_unifyFeeds,
    movedText]

/-- An import of a script stands in a text behind the lines that the text begins with, of which the
code of the script continues the last: the code in front of it comes in between, and nothing else. -/
structure StandsBehind (i : Import) (header : List String) (sourceId code content : String) :
    Prop where
  exists_parts : ∃ before after tail,
    chunks code.toList = before ++ .specifier i.specifier.toList :: after ∧
    i.start = byteLength (before.flatMap Chunk.text) ∧
    content.toList = (String.intercalate "\n" header).toList ++ movedText sourceId before
      ++ resolveText sourceId i.specifier.toList ++ movedText sourceId after ++ tail

end Import

/-- A module begins with its header and the code that goes with it. -/
theorem exists_moduleText (header : List String) (code : String) (footer : Option String) :
    ∃ tail, (moduleText header code footer).toList =
      (String.intercalate "\n" header).toList ++ code.toList ++ tail := by
  have hclosed : ∃ tail, (if Text.endsIn ['\n'] (String.intercalate "\n" header ++ code).toList
      then String.intercalate "\n" header ++ code
      else String.intercalate "\n" header ++ code ++ "\n").toList =
        (String.intercalate "\n" header).toList ++ code.toList ++ tail := by
    split
    · exact ⟨[], by rw [String.toList_append, List.append_nil]⟩
    · exact ⟨"\n".toList, by rw [String.toList_append, String.toList_append]⟩
  obtain ⟨tail, htail⟩ := hclosed
  unfold moduleText
  cases footer with
  | none => exact ⟨tail, htail⟩
  | some line =>
    refine ⟨tail ++ line.toList ++ "\n".toList, ?_⟩
    rw [String.toList_append, String.toList_append, htail]
    simp only [List.append_assoc]

theorem Script.standsBehind_moduleText (s : Script) (sourceId : String) (header : List String)
    (footer : Option String) {i : Import} (hi : i ∈ Import.scan s.code) :
    i.StandsBehind header sourceId s.code (moduleText header (s.moduleCode sourceId) footer) := by
  obtain ⟨before, after, hchunks, hstart, -⟩ :=
    Import.exists_chunks_of_mem_locate (fun _ => Import.feed_notMem_of_mem_chunks) hi
  obtain ⟨tail, htext⟩ := exists_moduleText header (s.moduleCode sourceId) footer
  refine ⟨before, after, tail, hchunks, by rw [hstart, Nat.zero_add], ?_⟩
  rw [htext, Import.toList_moduleCode, hchunks, Import.movedText_append_specifier]
  simp only [List.append_assoc]

/-! ## The whole app -/

namespace App

variable (a : App)

/-- Where the imports of scripts stand in the modules of an app. -/
structure ImportsPlaced : Prop where
  /-- Imports of a script that is loaded and kept in the app file are at the top level. -/
  loaded {n : Nat} {s : Script} (hs : (a.scriptsOf .sync)[n]? = some s)
    (hinline : s.reference = none) :
    ∃ m ∈ a.generated.modules, m.file = a.loadedFile n ∧ m.owner = s.id ∧
      openBlocks (s.header a.sourceId m.file) = 0 ∧
      ∀ i ∈ Import.scan s.code,
        i.StandsBehind (s.header a.sourceId m.file) a.sourceId s.code m.content
  /-- Imports of a script that runs at a fixed moment and is kept in the app file are in the function
  of the script. -/
  moment {s : Script} {n : Nat} (hs : (s, n) ∈ a.ordinals) (hk : s.kind ≠ .sync)
    (hinline : s.reference = none) :
    ∃ m ∈ a.generated.modules, m.file = momentFile s.kind n ∧ m.owner = s.id ∧
      openBlocks (s.header a.sourceId m.file) = 0 ∧
      openBlocks (s.header a.sourceId m.file ++ [s.exportLine n, Script.exportsLine]) = 1 ∧
      ∀ i ∈ Import.scan s.code,
        i.StandsBehind (s.header a.sourceId m.file ++ [s.exportLine n, Script.exportsLine])
          a.sourceId s.code m.content
  /-- The import of one that is kept outside is at the top level, above the function. -/
  outside {s : Script} {n : Nat} (hs : (s, n) ∈ a.ordinals) (hk : s.kind ≠ .sync)
    {reference : String} (houtside : s.reference = some reference) :
    ∃ m ∈ a.generated.modules, m.file = momentFile s.kind n ∧ m.owner = s.id ∧
      openBlocks (s.header a.sourceId m.file) = 0 ∧
      ∃ rest, m.content.toList =
        (String.intercalate "\n" (s.header a.sourceId m.file
          ++ [importAll "__external" (absoluteReference a.sourceId reference), s.exportLine n,
            Script.exportsLine])).toList ++ rest

/-- The imports of a script are at the top level of its module, unless the script is put into a
function: then they are put into it too. -/
theorem imports_placed : a.ImportsPlaced where
  loaded {n s} hs hinline := by
    have hfile : (s.inlineModule a.sourceId (a.inlineBefore n)).1.file = a.loadedFile n := rfl
    refine ⟨_, a.inlineModule_mem hs hinline, rfl, rfl, s.openBlocks_header _ _, fun i hi => ?_⟩
    rw [hfile, s.content_inlineModule, s.header_eq]
    exact s.standsBehind_moduleText a.sourceId _ none hi
  moment {s n} hs hk hinline := by
    refine ⟨_, a.momentModule_mem hs hk, s.file_momentModule_fst _ _, s.owner_momentModule _ _,
      s.openBlocks_header _ _, ?_, fun i hi => ?_⟩
    · rw [openBlocks_append (by simp [Script.header]), s.openBlocks_header, s.openBlocks_exportLine]
      rfl
    · rw [s.file_momentModule_fst, s.content_momentModule_inline a.sourceId n hinline]
      exact s.standsBehind_moduleText a.sourceId _ _ hi
  outside {s n} hs hk reference houtside := by
    obtain ⟨tail, htext⟩ := exists_moduleText (s.header a.sourceId (momentFile s.kind n)
      ++ [importAll "__external" (absoluteReference a.sourceId reference), s.exportLine n,
        Script.exportsLine]) callOutside (some "\x7d")
    refine ⟨_, a.momentModule_mem hs hk, s.file_momentModule_fst _ _, s.owner_momentModule _ _,
      s.openBlocks_header _ _, callOutside.toList ++ tail, ?_⟩
    rw [s.file_momentModule_fst, s.content_momentModule_outside a.sourceId n houtside, htext,
      List.append_assoc]

end App

/-- A script that runs after loading and begins with an import. -/
def lateScript : Script :=
  ⟨"s0", .init, "import \x27./x.ts\x27;\n", none, false, ⟨⟨1, 0, 0⟩, ⟨1, 0, 0⟩⟩⟩

/-- An app with that script. -/
def lateImport : App where
  sourceId := "/app.melker"
  content := ""
  template := ""
  scripts := [lateScript]
  handlers := []

/-- The import, which is no call, comes to stand in the function of the script. -/
theorem lateImport_inside_function :
    (Import.clauseAt? none lateScript.code.toList).map (·.specifier) = some "./x.ts".toList ∧
      lateImport.generated.modules.map (fun m => Text.pieces m.content.toList) = [[
        "// _init_0.ts: init script from /app.melker:1",
        "const $melker = globalThis.$melker;",
        "const argv = globalThis.argv ?? [];",
        "export async function __init_0() \x7b",
        "const $app = $melker.exports;import \x27file:///x.ts\x27;",
        "\x7d",
        ""].map String.toList] := by
  have hmodules : lateImport.generated.modules = [(lateScript.momentModule "/app.melker" 0).1] := rfl
  have hcomment : lateScript.comment "/app.melker" (momentFile .init 0) =
      "// _init_0.ts: init script from /app.melker:1" := by decide +kernel
  have hopen : lateScript.exportLine 0 = "export async function __init_0() \x7b" := by
    decide +kernel
  have hbody : lateScript.momentBody "/app.melker" = "import \x27file:///x.ts\x27;\n" := by
    decide +kernel
  have hlast : Text.pieces
      (Script.exportsLine ++ closedCode "import \x27file:///x.ts\x27;\n" ++ "\x7d\n").toList =
        ["const $app = $melker.exports;import \x27file:///x.ts\x27;", "\x7d", ""].map
          String.toList := by decide +kernel
  refine ⟨by decide +kernel, ?_⟩
  rw [hmodules, List.map_singleton, lateScript.pieces_momentModule, hbody, hlast, hopen]
  show [[lateScript.comment "/app.melker" (momentFile .init 0), contextLine, argumentsLine,
    "export async function __init_0() \x7b"].map String.toList ++ _] = _
  rw [hcomment]
  rfl

end AppBundle
