import AppBundle.Bundle.Basic
import AppBundle.Proofs.Entry.LineTable
import AppBundle.Proofs.Modules

/-!
# Where frames are located

A frame reaches a line of a generated file if it is in that file, or if it is in the bundle and the
source map takes it there (`StackFrame.Reaches`). A line of a generated file repeats a line of the
app file if it is a line of the module of a script or of the body of a handler (`App.Repeats`). A
frame that reaches a line is located at the line of the app file that it repeats.

A locator remembers the mappings that it decoded, and nothing else changes from frame to frame
(`Locator.SameBut`, `Locator.Follows`), so every frame of a stack trace is located as if it were the
first.
-/

namespace AppBundle

/-! ## From frame to frame -/

namespace Locator

variable {t u : Locator} {raw : StackFrame}

/-- The mappings that a locator uses: those it remembers, or those it is yet to read. -/
def mappings (t : Locator) : Option Mappings :=
  t.decoded.getD t.readMappings.1

/-- A frame that does not need the mappings is resolved the same with any. -/
theorem resolve?_of_not_needsMappings (h : ¬ t.needsMappings raw) (m : Option Mappings) :
    t.resolve? m raw = t.resolve? none raw := by
  unfold resolve?
  split
  · rfl
  · next horigin =>
    split
    · rfl
    · next hentry =>
      rw [if_neg, if_neg]
      all_goals
        intro hbundle
        exact h (by simp [needsMappings, horigin, hentry, hbundle])

/-- A frame is located with the mappings that the locator uses. -/
theorem fst_frame (t : Locator) (raw : StackFrame) :
    (t.frame raw).1 = t.frameWith t.mappings raw := by
  unfold frame
  by_cases hneeds : t.needsMappings raw
  · rw [if_pos hneeds, mappings]
    cases t.decoded <;> rfl
  · rw [if_neg hneeds, Locator.frameWith, Locator.frameWith,
      resolve?_of_not_needsMappings hneeds t.mappings]

/-- A locator that differs from another at most in having read the mappings that both use. -/
def SameBut (u t : Locator) : Prop :=
  u = { t with decoded := u.decoded } ∧ u.mappings = t.mappings

theorem SameBut.refl (t : Locator) : t.SameBut t := ⟨rfl, rfl⟩

theorem SameBut.frameWith (h : u.SameBut t) (m : Option Mappings) (raw : StackFrame) :
    u.frameWith m raw = t.frameWith m raw := by
  rw [h.1]
  rfl

theorem SameBut.frame (h : u.SameBut t) (raw : StackFrame) : (u.frame raw).2.1.SameBut t := by
  obtain ⟨hsame, hmappings⟩ := h
  unfold Locator.frame
  by_cases hneeds : u.needsMappings raw
  · rw [if_pos hneeds]
    cases hdecoded : u.decoded with
    | some m => exact ⟨hsame, hmappings⟩
    | none =>
      refine ⟨?_, ?_⟩
      · rw [hsame]
      · rw [← hmappings, mappings, mappings, hdecoded]
        rfl
  · rw [if_neg hneeds]
    exact ⟨hsame, hmappings⟩

/-- Frames are located with the mappings that the locator uses for the first of them. -/
theorem SameBut.fst_locateFrames (h : u.SameBut t) (raws : List StackFrame) :
    (u.locateFrames raws).1 = raws.map (t.frameWith t.mappings) := by
  induction raws generalizing u with
  | nil => rfl
  | cons raw raws ih =>
    have hfirst : (u.frame raw).1 = t.frameWith t.mappings raw := by
      rw [fst_frame, h.frameWith, h.2]
    exact congrArg₂ List.cons hfirst (ih (h.frame raw))

theorem fst_locateFrames (t : Locator) (raws : List StackFrame) :
    (t.locateFrames raws).1 = raws.map (t.frameWith t.mappings) :=
  (SameBut.refl t).fst_locateFrames raws

/-- The frames of a stack trace are located one after the other. -/
theorem locate_eq (t : Locator) (raw : String) :
    t.locate raw =
      (⟨(StackTrace.parse raw).message, (t.locateFrames (StackTrace.parse raw).frames).1⟩,
        (t.locateFrames (StackTrace.parse raw).frames).2) := by
  unfold locate
  generalize StackTrace.parse raw = trace
  dsimp only

/-- What becomes of a locator: it may have decoded the mappings. -/
def Follows (u t : Locator) : Prop :=
  (u.decoded = none ∨ u.decoded = some t.readMappings.1) ∧ u = { t with decoded := u.decoded }

theorem Follows.refl (h : t.decoded = none) : t.Follows t := ⟨.inl h, rfl⟩

theorem Follows.readMappings (h : u.Follows t) : u.readMappings = t.readMappings := by
  rw [h.2]
  rfl

/-- Whether or not it decoded the mappings, it uses the same. -/
theorem Follows.frameWith_mappings (h : u.Follows t) (raw : StackFrame) :
    u.frameWith u.mappings raw = t.frameWith t.readMappings.1 raw := by
  have hmappings : u.mappings = t.readMappings.1 := by
    rw [mappings, h.readMappings]
    rcases h.1 with hd | hd <;> rw [hd] <;> rfl
  rw [hmappings, h.2]
  rfl

/-- A locator that decoded the mappings locates a frame as one that is yet to decode them. -/
theorem Follows.frame (h : u.Follows t) (raw : StackFrame) :
    (u.frame raw).1 = t.frameWith t.readMappings.1 raw ∧ (u.frame raw).2.1.Follows t := by
  refine ⟨(u.fst_frame raw).trans (h.frameWith_mappings raw), ?_⟩
  have hread := h.readMappings
  obtain ⟨hdecoded, hsame⟩ := h
  unfold Locator.frame
  by_cases hneeds : u.needsMappings raw
  · rw [if_pos hneeds]
    rcases hdecoded with hd | hd
    · simp only [hd, hread]
      refine ⟨.inr rfl, ?_⟩
      rw [hsame]
    · simp only [hd]
      exact ⟨.inr hd, hsame⟩
  · rw [if_neg hneeds]
    exact ⟨hdecoded, hsame⟩

/-- Frames in between leave a locator ready for the next. -/
theorem Follows.locateFrames (h : u.Follows t) (raws : List StackFrame) :
    (u.locateFrames raws).2.1.Follows t := by
  induction raws generalizing u with
  | nil => exact h
  | cons raw raws ih => exact ih (h.frame raw).2

end Locator

/-! ## Files -/

section Files

variable {t : Locator} {path : String}

/-- A path is in a module if it ends in the file of the module. -/
theorem Locator.originOf?_of_mem (hfree : ∀ o ∈ t.origins, SlashFree o.file)
    (hnodup : (t.origins.map (·.file)).Nodup) {o : ModuleOrigin} (ho : o ∈ t.origins)
    (hpath : fileName path = o.file) : t.originOf? path = some o := by
  obtain ⟨front, back, hsplit⟩ := List.append_of_mem ho
  rw [hsplit, List.map_append, List.nodup_append] at hnodup
  have hfront : ∀ x ∈ front, ¬ namesFile path x.file = true := by
    intro x hx hnames
    rw [namesFile_iff (hfree x (by rw [hsplit]; exact List.mem_append_left _ hx)), hpath] at hnames
    exact hnodup.2.2 _ (List.mem_map_of_mem hx) o.file (by simp) hnames.symm
  have hnone : front.find? (fun m => namesFile path m.file) = none :=
    List.find?_eq_none.mpr hfront
  rw [originOf?, hsplit, List.find?_append, hnone, Option.none_or]
  exact List.find?_cons_of_pos ((namesFile_iff (hfree o ho)).mpr hpath)

/-- A path that ends in no file of a module is in none. -/
theorem Locator.originOf?_eq_none (hfree : ∀ o ∈ t.origins, SlashFree o.file)
    (hother : ∀ o ∈ t.origins, fileName path ≠ o.file) : t.originOf? path = none := by
  refine List.find?_eq_none.mpr fun o ho hnames => ?_
  exact hother o ho ((namesFile_iff (hfree o ho)).mp hnames)

theorem slashFree_entryFile : SlashFree entryFile := .ofChars (by decide)

theorem slashFree_runFile : SlashFree runFile := .ofChars (by decide)

theorem runFile_ne_entryFile : runFile ≠ entryFile := by
  intro h
  have htake := congrArg (fun s => s.toList.take 1) h
  simp [runFile, entryFile] at htake

/-- Files of modules begin in a way of their own. -/
theorem App.take_file_of_mem_origins {a : App} {o : ModuleOrigin} (ho : o ∈ a.generated.origins) :
    o.file.toList.take 2 = ['_', 'i'] ∨ o.file.toList.take 2 = ['_', 'r'] := by
  have hfile := List.mem_map_of_mem (f := (·.file)) ho
  rw [a.files_eq] at hfile
  rcases List.mem_append.mp hfile with h | h
  · obtain ⟨i, -, hi⟩ := List.mem_map.mp h
    left
    rw [← hi]
    simp [inlineFile]
  · obtain ⟨m, hm, hfile⟩ := List.mem_map.mp h
    rw [← hfile]
    rcases (pairwise_numberMoments 0 0 a.scripts).2 m hm with ⟨hk, -⟩ | ⟨hk, -⟩
    · left
      simp [momentFile, hk, Timing.word]
    · right
      simp [momentFile, hk, Timing.word]

theorem App.file_ne_entryFile {a : App} {o : ModuleOrigin} (ho : o ∈ a.generated.origins) :
    entryFile ≠ o.file := by
  intro h
  have htake := App.take_file_of_mem_origins ho
  rw [← h] at htake
  simp [entryFile] at htake

theorem App.file_ne_runFile {a : App} {o : ModuleOrigin} (ho : o ∈ a.generated.origins) :
    runFile ≠ o.file := by
  intro h
  have htake := App.take_file_of_mem_origins ho
  rw [← h] at htake
  simp [runFile] at htake

end Files

/-! ## Frames in generated files -/

/-- A line of a generated file repeats a line of the app file. Line `headerSize + k - 1` of the
module of a script holds line `k` of the script; a line of the entry may be a line of the body of a
handler. -/
inductive App.Repeats (a : App) : String → Nat → Nat → Prop
  | script {before after : List Script} {s : Script} {k : Nat}
      (hs : a.scripts = before ++ s :: after) (hinline : s.reference = none) (hk : 1 ≤ k)
      (hfits : s.span.start.line + ((a.moduleBehind before s).2.headerSize + k - 1) ≤
        Text.maxWord32) :
      a.Repeats (a.moduleBehind before s).1.file ((a.moduleBehind before s).2.headerSize + k - 1)
        (s.span.start.line + k - 1)
  | body {h : Handler} {j m : Nat} (hl : a.entryLine? m = some (.body h j)) :
      a.Repeats entryFile m (h.codeSpan.start.line + j)

/-- A frame reaches a line of a file: it is in the file, or it is in the bundle and the source map
takes its line and column there. Columns of frames count from one, those of mappings from zero. -/
inductive StackFrame.Reaches (raw : StackFrame) (map : Option SourceMap) : String → Nat → Prop
  | direct : raw.Reaches map (fileName raw.file) raw.line
  | mapped {sm : SourceMap} {mappings : Mappings} {c : Nat} {place : SourcePlace} {source : String}
      (hfile : fileName raw.file = runFile) (hcolumn : raw.column = c + 1) (hmap : map = some sm)
      (hmappings : sm.toMappings = .ok mappings)
      (hplace : mappings.placeOf? raw.line (some c) = some place)
      (hsource : sm.source? place.source = some source) :
      raw.Reaches map (fileName source) place.line

/-- The bundle of an app around some code with a source map. -/
def App.bundleAround (a : App) (template code : String) (map : Option SourceMap) : Bundle where
  template := template
  code := code
  lineTable := a.generated.lineTable
  sourceMap := map
  origins := a.generated.origins
  content := a.generated.content
  sourceId := a.generated.sourceId

namespace App

variable {a : App} {template code path : String} {map : Option SourceMap} {m line : Nat}

/-- What a locator knows of a line of the file that a path is in, and what the place tells about its
code: the line is in a module whose lines it can count, or the table of the entry has it. -/
inductive Knows (t : Locator) (path : String) (m line : Nat) : Option CodeKind → Prop
  | module {o : ModuleOrigin} (origin : t.originOf? path = some o) (place : o.lineFor m = line) :
      Knows t path m line (CodeKind.ofModule? o.file)
  | entry {o : LineOrigin} (origin : t.originOf? path = none)
      (file : namesFile path entryFile = true) (place : t.lineTable.get? m = some o)
      (same : o.line = line) : Knows t path m line (CodeKind.ofName? o.owner)

/-- A locator knows the lines of bodies in the entry, and that they are code of their handlers. -/
theorem knows_body {h : Handler} {j : Nat} (hl : a.entryLine? m = some (.body h j))
    (hpath : fileName path = entryFile) (template code : String) (map : Option SourceMap) :
    Knows (a.bundleAround template code map).locator path m (h.codeSpan.start.line + j)
      (CodeKind.ofName? h.id) := by
  have horigin : (a.bundleAround template code map).locator.originOf? path = none :=
    Locator.originOf?_eq_none (fun o ho => a.slashFree_of_mem_origins ho) fun o ho heq =>
      file_ne_entryFile ho (hpath.symm.trans heq)
  have hget : a.generated.lineTable.get? m =
      some ⟨h.codeSpan.start.line + j, h.id, h.description⟩ := by
    rw [a.get?_lineTable, hl]
    rfl
  exact .entry (o := ⟨h.codeSpan.start.line + j, h.id, h.description⟩) horigin
    ((namesFile_iff slashFree_entryFile).mpr hpath) hget rfl

/-- A locator knows the lines that repeat one of the app file. -/
theorem Repeats.known {file : String} (h : a.Repeats file m line) (template code : String)
    (map : Option SourceMap) :
    ∃ kind, ∀ path, fileName path = file →
      Knows (a.bundleAround template code map).locator path m line kind := by
  cases h with
  | @script before after s k hs hinline hk hfits =>
    have hmem : (a.moduleBehind before s).2 ∈ a.generated.origins :=
      List.mem_map_of_mem (moduleBehind_mem hs hinline)
    refine ⟨_, fun path hfile => .module (Locator.originOf?_of_mem
      (fun o ho => a.slashFree_of_mem_origins ho) a.nodup_files hmem
      (hfile.trans file_moduleBehind)) ?_⟩
    rw [ModuleOrigin.lineFor, line_moduleBehind, Nat.min_eq_left hfits]
    omega
  | @body h j m hl => exact ⟨_, fun path hfile => knows_body hl hfile template code map⟩

/-- A frame in a file whose lines are known is resolved to what is known of its line. -/
theorem Knows.resolve? {t : Locator} {raw : StackFrame} {kind : Option CodeKind}
    (h : Knows t raw.file raw.line line kind) (ms : Option Mappings) :
    ∃ place, place.line = line ∧ place.kind = kind ∧ t.resolve? ms raw = some place := by
  cases h with
  | @module o ho hline =>
    exact ⟨Locator.ofModule o raw.line none, hline, rfl, by simp only [Locator.resolve?, ho]⟩
  | @entry o ho hentry hget hline =>
    refine ⟨Locator.ofOrigin o, hline, rfl, ?_⟩
    simp only [Locator.resolve?, ho, hentry, if_true, Locator.nearLine?,
      LineTable.near?_of_get? hget, Option.map_some]

/-- A frame that mappings take to a line that is known is resolved to what is known of it. -/
theorem Knows.byMappings? {t : Locator} {raw : StackFrame} {kind : Option CodeKind}
    {sm : SourceMap} {mappings : Mappings} {place : SourcePlace} {source : String}
    (h : Knows t source place.line line kind) (hmap : t.sourceMap = some sm)
    (hplace : mappings.placeOf? raw.line (some (raw.column - 1)) = some place)
    (hsource : sm.source? place.source = some source) :
    ∃ p, p.line = line ∧ p.kind = kind ∧ t.byMappings? mappings raw = some p := by
  cases h with
  | @module o ho hline =>
    refine ⟨Locator.ofModule o place.line (some place.column), hline, rfl, ?_⟩
    simp only [Locator.byMappings?, hmap, hplace, hsource, ho, Option.bind_eq_bind,
      Option.bind_some]
    rfl
  | @entry o ho hentry hget hline =>
    refine ⟨Locator.ofOrigin o, hline, rfl, ?_⟩
    simp only [Locator.byMappings?, hmap, hplace, hsource, ho, hentry, hget, Option.bind_eq_bind,
      Option.bind_some, if_true, Option.map_some]

/-- A frame that reaches a line that is known is resolved to what is known of it. -/
theorem exists_place_of_reaches {raw : StackFrame} {file : String} {kind : Option CodeKind}
    (h : ∀ path, fileName path = file →
      Knows (a.bundleAround template code map).locator path m line kind)
    (hreach : raw.Reaches map file m) :
    ∃ place, place.line = line ∧ place.kind = kind ∧
      (a.bundleAround template code map).locator.resolve?
        (a.bundleAround template code map).locator.readMappings.1 raw = some place := by
  cases hreach with
  | direct => exact (h raw.file rfl).resolve? _
  | @mapped sm mappings c place source hfile hcolumn hmap hmappings hplace hsource =>
    subst hmap
    -- the frame is in the bundle, which is neither a module nor the entry
    have horigin : (a.bundleAround template code (some sm)).locator.originOf? raw.file = none :=
      Locator.originOf?_eq_none (fun o ho => a.slashFree_of_mem_origins ho) fun o ho heq =>
        file_ne_runFile ho (hfile.symm.trans heq)
    have hentry : namesFile raw.file entryFile = false := by
      rw [Bool.eq_false_iff, Ne, namesFile_iff slashFree_entryFile, hfile]
      exact runFile_ne_entryFile
    have hbundle : (a.bundleAround template code (some sm)).locator.namesBundle raw.file = true :=
      (namesFile_iff slashFree_runFile).mpr hfile
    have hmap : (a.bundleAround template code (some sm)).locator.sourceMap = some sm := rfl
    have hread : (a.bundleAround template code (some sm)).locator.readMappings.1 =
        some mappings := by
      simp only [Locator.readMappings, hmap, hmappings]
    have hcolumn' : raw.column - 1 = c := by omega
    obtain ⟨p, hline, hkind, hp⟩ := (h source rfl).byMappings? hmap (hcolumn' ▸ hplace) hsource
    refine ⟨p, hline, hkind, ?_⟩
    simp only [Locator.resolve?, horigin, hentry, hbundle, hread, Bool.false_eq_true, if_false,
      if_true, Option.bind_some, hp]
    rfl

/-- A frame that reaches a line is resolved to the line of the app file that it repeats. -/
theorem Repeats.resolve? {raw : StackFrame} {file : String} (h : a.Repeats file m line)
    (hreach : raw.Reaches map file m) (template code : String) :
    ∃ place, place.line = line ∧
      (a.bundleAround template code map).locator.resolve?
        (a.bundleAround template code map).locator.readMappings.1 raw = some place := by
  obtain ⟨kind, hknown⟩ := h.known template code map
  obtain ⟨place, hline, -, hresolve⟩ := exists_place_of_reaches hknown hreach
  exact ⟨place, hline, hresolve⟩

/-- A frame that is resolved is located in the app file, with the text of the line there. -/
theorem frameWith_of_resolve? {t : Locator} {ms : Option Mappings} {raw : StackFrame}
    {place : AppPlace} (h : t.resolve? ms raw = some place) :
    (t.frameWith ms raw).file = t.sourceId ∧ (t.frameWith ms raw).line = place.line ∧
      (t.frameWith ms raw).lineText = t.lineText? place.line := by
  unfold Locator.frameWith
  rw [h]
  exact ⟨rfl, rfl, rfl⟩

/-- The text of a line of the app file. -/
theorem lineText?_bundleAround (n : Nat) :
    (a.bundleAround template code map).locator.lineText? n =
      if n = 0 then none else (stringLines a.content)[n - 1]?.map trimmedEnd := by
  show (if n = 0 then none
    else (stringLines a.content)[n - 1]?.bind fun s => some (trimmedEnd s)) = _
  split
  · rfl
  · rw [Option.map_eq_bind]
    rfl

/-- Positions are kept from the app file to the located frame. The lines of bodies stand in the
entry where `entryLine?` says; and a frame that reaches a line of a generated file, directly or
through the source map of the bundle and whatever frames came before it, is located in the app file
at the line that is repeated there, with the text of that line. -/
theorem LabelsOnOneLine.frame_of_reaches (ha : a.LabelsOnOneLine) :
    (∀ n h j, a.entryLine? n = some (.body h j) →
      ∃ text,
        (Text.pieces (Text.trimRight (· = '\n') (Text.unifyFeeds h.code.toList)))[j]? =
          some text ∧
        (Text.pieces a.generated.entry.toList)[n - 1]? = some text) ∧
    ∀ (template code : String) (map : Option SourceMap) (earlier : List StackFrame)
      (raw : StackFrame) (file : String) (m line : Nat),
      a.Repeats file m line → raw.Reaches map file m →
      let located :=
        (((a.bundleAround template code map).locator.locateFrames earlier).2.1.frame raw).1
      located.file = a.sourceId ∧ located.line = line ∧
        located.lineText =
          if line = 0 then none else (stringLines a.content)[line - 1]?.map trimmedEnd := by
  refine ⟨fun n h j hl => ?_, ?_⟩
  · obtain ⟨text, hcode, hentry, -⟩ := ha.body_of_entryLine? hl
    exact ⟨text, hcode, hentry⟩
  · intro template code map earlier raw file m line hrep hreach
    have hfollows : (a.bundleAround template code map).locator.Follows
        (a.bundleAround template code map).locator := Locator.Follows.refl rfl
    obtain ⟨hframe, -⟩ := (hfollows.locateFrames earlier).frame raw
    obtain ⟨place, hline, hresolve⟩ := hrep.resolve? hreach template code
    obtain ⟨hfile, hplace, htext⟩ := frameWith_of_resolve? hresolve
    simp only [hframe, htext, hplace, hline, lineText?_bundleAround]
    exact ⟨hfile, trivial, trivial⟩

end App

/-- A source map that takes the start of the bundle to line 23 of the entry. -/
def counterMap : SourceMap where
  version := 3
  file := none
  sourceRoot := some "/tmp/scratch/"
  sources := ["_melker_entry.ts"]
  names := []
  mappings := "AAsBA"
  sourcesContent := none

/-- A frame in the bundle that the source map takes to the second line of a body is located at the
second line of the code of the handler. -/
theorem counterApp_frame :
    let raw : StackFrame := ⟨some "click0", "file:///tmp/run/melker_bundle.js", 1, 1⟩
    let located :=
      ((counterApp.bundleAround "" "" (some counterMap)).locator.frame raw).1
    counterApp.LabelsOnOneLine ∧ counterApp.Repeats entryFile 23 6 ∧
      raw.Reaches (some counterMap) entryFile 23 ∧
      located.file = counterApp.sourceId ∧ located.line = 6 ∧
      located.lineText = some "show(n);\"/>" := by
  intro raw located
  have hrep : counterApp.Repeats entryFile 23 6 :=
    App.Repeats.body (h := counterApp.handlers[0]) (j := 1) rfl
  have hreach : raw.Reaches (some counterMap) entryFile 23 := by
    have hrun : fileName raw.file = runFile := by decide +kernel
    have hmappings : counterMap.toMappings = .ok ⟨[[⟨0, some ⟨0, 22, 0, none⟩⟩]]⟩ := rfl
    have hplace : Mappings.placeOf? ⟨[[⟨0, some ⟨0, 22, 0, none⟩⟩]]⟩ 1 (some 0) =
        some ⟨0, 23, 0⟩ := by decide +kernel
    have hsource : counterMap.source? 0 = some "/tmp/scratch/_melker_entry.ts" := by decide +kernel
    have hentry : fileName "/tmp/scratch/_melker_entry.ts" = entryFile := by decide +kernel
    rw [← hentry]
    exact .mapped hrun rfl rfl hmappings hplace hsource
  obtain ⟨hfile, hline, htext⟩ := counterApp_labelsOnOneLine.frame_of_reaches.2 "" ""
    (some counterMap) [] raw entryFile 23 6 hrep hreach
  refine ⟨counterApp_labelsOnOneLine, hrep, hreach, hfile, hline, htext.trans ?_⟩
  decide +kernel

end AppBundle
