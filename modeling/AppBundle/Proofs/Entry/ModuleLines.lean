import AppBundle.Proofs.Entry.ModuleText
import AppBundle.Proofs.Modules

/-!
# The lines of modules

The module of a script that is kept in the app file holds the lines of the script, the first of them
behind the last line of the header and every other on a line of its own (`Script.LaidOut`). What is
known of the lines of the module takes each of them back to its line in the app file.
-/

namespace AppBundle

open AppBundle.Text

/-! ## Code behind a header -/

/-- The lines of code: its pieces, but for an empty one behind a line feed at its end. -/
def numberedLines (code : String) : List (List Char) :=
  if endsIn ['\n'] code.toList then (pieces code.toList).dropLast else pieces code.toList

/-- Code with a line feed at its end is made up of its lines. -/
theorem toList_closedCode (code : String) :
    (closedCode code).toList = unlines (numberedLines code) := by
  unfold closedCode numberedLines
  split
  · next hends =>
    obtain ⟨front, hfront⟩ := List.isSuffixOf_iff_suffix.mp hends
    have hpieces : pieces code.toList = pieces front ++ [[]] := by
      rw [← hfront, pieces, split_append_cons]
      rfl
    rw [hpieces, List.dropLast_concat, unlines_pieces, hfront]
  · rw [unlines_pieces, String.toList_append]
    rfl

theorem feed_notMem_of_mem_numberedLines {code : String} {l : List Char}
    (hl : l ∈ numberedLines code) : '\n' ∉ l := by
  unfold numberedLines at hl
  split at hl
  · exact feed_notMem_of_mem_pieces (List.dropLast_subset _ hl)
  · exact feed_notMem_of_mem_pieces hl

/-- Code has a first line, be it empty. -/
theorem numberedLines_ne_nil (code : String) : numberedLines code ≠ [] := by
  intro hnil
  have hclosed := toList_closedCode code
  rw [hnil] at hclosed
  unfold closedCode at hclosed
  split at hclosed
  · next hends =>
    rw [hclosed] at hends
    exact absurd hends (by decide)
  · rw [String.toList_append] at hclosed
    exact absurd (List.append_eq_nil_iff.mp hclosed).2 (by decide)

section Header

variable {front : List String} {last : String} {code : String} {footer : Option String}
  {first : List Char} {rest : List (List Char)}

/-- The lines of a module are those of its header, with the first line of the code behind the last,
the other lines of the code, and the line that closes it. -/
theorem pieces_moduleText_numbered (hlast : OneLine last) (hne : last ≠ "")
    (hfront : ∀ l ∈ front, OneLine l) (hfooter : ∀ l, footer = some l → OneLine l)
    (hcode : numberedLines code = first :: rest) :
    pieces (moduleText (front ++ [last]) code footer).toList =
      front.map String.toList ++
        (last.toList ++ first) :: (rest ++ footer.toList.map String.toList ++ [[]]) := by
  have hfeed : ∀ l ∈ first :: rest, '\n' ∉ l := fun l hl =>
    feed_notMem_of_mem_numberedLines (hcode ▸ hl)
  have hcontinued : '\n' ∉ last.toList ++ first := by
    rw [List.mem_append, not_or]
    exact ⟨hlast, hfeed first List.mem_cons_self⟩
  have hfoot : (footerText footer).toList = unlines (footer.toList.map String.toList) := by
    cases footer with
    | none => rfl
    | some l => simp [footerText, unlines]
  have hfootFeed : ∀ l ∈ footer.toList.map String.toList, '\n' ∉ l := by
    intro l hl
    obtain ⟨s, hs, rfl⟩ := List.mem_map.mp hl
    exact hfooter s (Option.mem_toList.mp hs)
  rw [pieces_moduleText hlast hne hfront, String.toList_append, String.toList_append,
    toList_closedCode, hcode, hfoot, unlines, ← List.append_assoc, List.append_assoc,
    List.cons_append, pieces_append_feed hcontinued,
    pieces_unlines_append fun l hl => hfeed l (List.mem_cons_of_mem first hl),
    pieces_unlines hfootFeed, List.append_assoc]

end Header

/-! ## Scripts -/

namespace Script

/-- The lines in front of the code of a script in its module, the last of them continued by the
code. -/
def moduleHeader (s : Script) (sourceId : String) (i : Nat) : List String :=
  match s.kind with
  | .sync => s.header sourceId (inlineFile i)
  | kind => s.header sourceId (momentFile kind i) ++ [s.exportLine i, exportsLine]

/-- The line that closes the module of a script: that of the function around it. -/
def moduleFooter (s : Script) : Option String :=
  match s.kind with
  | .sync => none
  | _ => some "\x7d"

/-- How the lines of the `i`-th script of its kind stand in its module. -/
structure LaidOut (s : Script) (sourceId : String) (i : Nat) (m : Module) (o : ModuleOrigin) :
    Prop where
  /-- The header has three lines where the script is loaded with the app, and five where it runs at
  a fixed moment. -/
  size : o.headerSize = if s.kind = .sync then 3 else 5
  header_length : (s.moduleHeader sourceId i).length = o.headerSize
  /-- The module consists of the header with the first line of the code behind its last line, the
  other lines of the code, and the line that closes it. -/
  whole : ∃ front last first rest,
    s.moduleHeader sourceId i = front ++ [last] ∧
    numberedLines (Import.resolveAll sourceId (withFeeds s.code)) = first :: rest ∧
    pieces m.content.toList = front.map String.toList ++
      (last.toList ++ first) :: (rest ++ s.moduleFooter.toList.map String.toList ++ [[]])
  /-- Every line of the code but the first stands on a line of its own. -/
  next {k : Nat} (hk : 2 ≤ k)
    (hle : k ≤ (numberedLines (Import.resolveAll sourceId (withFeeds s.code))).length) :
    (pieces m.content.toList)[o.headerSize + k - 1 - 1]? =
      (numberedLines (Import.resolveAll sourceId (withFeeds s.code)))[k - 1]?
  /-- Lines of the module are taken back to the lines of the app file. -/
  line {k : Nat} (hk : 1 ≤ k) (hfits : s.span.start.line + k - 1 + o.headerSize ≤ maxWord32) :
    o.lineFor (o.headerSize + k - 1) = s.span.start.line + k - 1
  /-- The module has lines behind its header. -/
  counted : o.headerSize < countLines m.content

variable {s : Script} {sourceId : String} {i : Nat} {front : List String} {last : String}

/-- A module whose header is on lines of its own is laid out. -/
theorem laidOut_toModule (file : String) (hheader : s.moduleHeader sourceId i = front ++ [last])
    (hsize : front.length + 1 = if s.kind = .sync then 3 else 5)
    (hfront : ∀ l ∈ front, OneLine l) (hlast : OneLine last) (hne : last ≠ "") {m : Module}
    {o : ModuleOrigin}
    (hmodule : (m, o) = s.toModule file (front ++ [last]) (s.moduleCode sourceId) s.moduleFooter) :
    s.LaidOut sourceId i m o := by
  obtain ⟨rfl, rfl⟩ := Prod.mk.inj hmodule
  have hfooter : ∀ l, s.moduleFooter = some l → OneLine l := by
    intro l hl
    unfold moduleFooter at hl
    split at hl
    · exact absurd hl (by simp)
    · obtain rfl := Option.some.inj hl
      exact .ofChars (by decide)
  obtain ⟨first, rest, hcode⟩ :=
    List.exists_cons_of_ne_nil (numberedLines_ne_nil (s.moduleCode sourceId))
  have hpieces := pieces_moduleText_numbered hlast hne hfront hfooter hcode
  have hlength : (front ++ [last]).length = front.length + 1 := List.length_append
  exact {
    size := hlength.trans hsize
    header_length := congrArg List.length hheader
    whole := ⟨front, last, first, rest, hheader, hcode, hpieces⟩
    next := by
      intro k hk hle
      have hcode' : numberedLines (Import.resolveAll sourceId (withFeeds s.code)) =
        first :: rest := hcode
      obtain ⟨j, rfl⟩ : ∃ j, k = j + 2 := ⟨k - 2, by omega⟩
      rw [hcode', List.length_cons] at hle
      have hindex : (front ++ [last]).length + (j + 2) - 1 - 1 =
          (front.map String.toList).length + (j + 1) := by
        rw [hlength, List.length_map]
        omega
      show (pieces (moduleText (front ++ [last]) (s.moduleCode sourceId) s.moduleFooter).toList)[
        (front ++ [last]).length + (j + 2) - 1 - 1]? = _
      rw [hpieces, hindex, List.getElem?_append_right (Nat.le_add_right _ _),
        Nat.add_sub_cancel_left, List.getElem?_cons_succ, List.append_assoc,
        List.getElem?_append_left (by omega), hcode']
      rfl
    line := by
      intro k hk hfits
      show min (s.span.start.line + ((front ++ [last]).length + k - 1)) maxWord32
        - (front ++ [last]).length = _
      have hfits' : s.span.start.line + k - 1 + (front ++ [last]).length ≤ maxWord32 := hfits
      omega
    counted := by
      show (front ++ [last]).length <
        (pieces (moduleText (front ++ [last]) (s.moduleCode sourceId) s.moduleFooter).toList).length
      rw [hpieces, hlength]
      simp only [List.length_append, List.length_map, List.length_cons, List.length_nil]
      omega }

/-- The module of a script that is loaded with the app is laid out. -/
theorem laidOut_inlineModule (sourceId : String) (i : Nat) (hk : s.kind = .sync) :
    s.LaidOut sourceId i (s.inlineModule sourceId i).1 (s.inlineModule sourceId i).2 := by
  have hheader : s.moduleHeader sourceId i =
      [s.comment sourceId (inlineFile i), contextLine] ++ [argumentsLine] := by
    simp only [moduleHeader, hk]
    rfl
  have hfooter : s.moduleFooter = none := by simp only [moduleFooter, hk]
  refine laidOut_toModule (inlineFile i) hheader (by rw [if_pos hk]; rfl) ?_
    oneLine_argumentsLine (by decide) (by rw [hfooter]; rfl)
  simp only [List.forall_mem_cons]
  exact ⟨s.oneLine_comment sourceId (oneLine_inlineFile i), oneLine_contextLine, by simp⟩

/-- So is the module of a script that runs at a fixed moment. -/
theorem laidOut_momentModule (sourceId : String) (i : Nat) (hk : s.kind ≠ .sync)
    (hinline : s.reference = none) :
    s.LaidOut sourceId i (s.momentModule sourceId i).1 (s.momentModule sourceId i).2 := by
  have hheader : s.moduleHeader sourceId i =
      [s.comment sourceId (momentFile s.kind i), contextLine, argumentsLine, s.exportLine i] ++
        [exportsLine] := by
    cases hkind : s.kind with
    | sync => exact absurd hkind hk
    | init | ready => simp [moduleHeader, hkind, header_eq]
  have hfooter : s.moduleFooter = some "\x7d" := by
    cases hkind : s.kind with
    | sync => exact absurd hkind hk
    | init | ready => simp only [moduleFooter, hkind]
  refine laidOut_toModule (momentFile s.kind i) hheader (by rw [if_neg hk]; rfl) ?_
    oneLine_exportsLine (by decide) ?_
  · simp only [List.forall_mem_cons]
    exact ⟨s.oneLine_comment sourceId (oneLine_momentFile _ _), oneLine_contextLine,
      oneLine_argumentsLine, s.oneLine_exportLine i, by simp⟩
  · rw [hfooter, momentModule, hinline]
    rfl

/-- The number of a script behind others: among those that are loaded and kept in the app file, or
among those that run at its moment. -/
def numberBehind (before : List Script) (s : Script) : Nat :=
  match s.kind with
  | .sync => before.countP fun b => b.kind = .sync ∧ b.reference = none
  | kind => before.countP (·.kind = kind)

end Script

/-- Every script that is kept in the app file has a module, in the file with its number, and its
lines stand there as they are numbered. -/
theorem App.modules_laidOut (a : App) {before after : List Script} {s : Script}
    (hs : a.scripts = before ++ s :: after) (hinline : s.reference = none) :
    ∃ (n : Nat) (m : Module) (o : ModuleOrigin),
      a.generated.modules[n]? = some m ∧ a.generated.origins[n]? = some o ∧ m.owner = s.id ∧
      m.file = o.file ∧
      m.file = (if s.kind = .sync then inlineFile (s.numberBehind before)
        else momentFile s.kind (s.numberBehind before)) ∧
      s.LaidOut a.sourceId (s.numberBehind before) m o := by
  obtain ⟨n, hn⟩ := List.getElem?_of_mem (moduleBehind_mem hs hinline)
  refine ⟨n, (a.moduleBehind before s).1, (a.moduleBehind before s).2, ?_, ?_, ?_⟩
  · show (a.modules.map (·.1))[n]? = _
    rw [List.getElem?_map, hn]
    rfl
  · show (a.modules.map (·.2))[n]? = _
    rw [List.getElem?_map, hn]
    rfl
  by_cases hk : s.kind = .sync
  · -- a script that is loaded
    have hmodule : a.moduleBehind before s =
        s.inlineModule a.sourceId (s.numberBehind before) := by
      simp only [moduleBehind, Script.numberBehind, hk]
    rw [hmodule, if_pos hk]
    exact ⟨rfl, rfl, rfl, Script.laidOut_inlineModule a.sourceId _ hk⟩
  · -- a script that runs at a fixed moment
    have hmodule : a.moduleBehind before s =
        s.momentModule a.sourceId (s.numberBehind before) := by
      cases hkind : s.kind with
      | sync => exact absurd hkind hk
      | init | ready => simp only [moduleBehind, Script.numberBehind, hkind]
    rw [hmodule, if_neg hk]
    exact ⟨s.owner_momentModule _ _,
      (s.file_momentModule_fst _ _).trans (s.file_momentModule _ _).symm,
      s.file_momentModule_fst _ _, Script.laidOut_momentModule a.sourceId _ hk hinline⟩

/-- A script that runs once the app is shown, with line ends of two characters, in an app file with
a line break in its name. -/
def shownScript : Script :=
  ⟨"s0", .ready, "one();\r\ntwo();", none, false, ⟨⟨7, 0, 90⟩, ⟨8, 6, 120⟩⟩⟩

/-- An app with that script. -/
def brokenNameApp : App where
  sourceId := "/apps/first\nsecond.melker"
  content := ""
  template := ""
  scripts := [shownScript]
  handlers := []

/-- The second line of the script is line 6 of its module, which is taken back to line 8 of the app
file. -/
theorem brokenNameApp_laidOut :
    brokenNameApp.scripts = [] ++ shownScript :: [] ∧ shownScript.reference = none ∧
      ∃ m ∈ brokenNameApp.generated.modules, ∃ o ∈ brokenNameApp.generated.origins,
        (pieces m.content.toList)[5]? = some "two();".toList ∧ o.lineFor 6 = 8 := by
  have hcode :
      numberedLines (Import.resolveAll brokenNameApp.sourceId (withFeeds shownScript.code)) =
        ["one();".toList, "two();".toList] := by
    decide +kernel
  have hs : brokenNameApp.scripts = [] ++ shownScript :: [] := rfl
  obtain ⟨n, m, o, hm, ho, -, -, -, hlaid⟩ := brokenNameApp.modules_laidOut hs rfl
  have hsize : o.headerSize = 5 := hlaid.size
  have hnext := hlaid.next (k := 2) (Nat.le_refl 2) (by rw [hcode]; decide)
  have hline := hlaid.line (k := 2) (by decide) (by rw [hsize]; decide)
  rw [hsize] at hnext hline
  rw [hcode] at hnext
  exact ⟨hs, rfl, m, List.mem_of_getElem? hm, o, List.mem_of_getElem? ho, hnext, hline⟩

end AppBundle
