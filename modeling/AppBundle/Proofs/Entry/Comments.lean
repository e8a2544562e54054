import AppBundle.Proofs.Entry.Wiring

/-!
# Comments in generated code

A comment of generated code ends with its line, so what is put into it must hold nothing that ends a
line. The path of the app file is stripped of line feeds and carriage returns, the labels of a
handler are not: a comment about a handler is one line exactly if its labels are
(`Handler.inComment_comment`). Where they are, comments move nothing: a line of the line table stands
where its number says, but for line feeds in the openings of functions before it
(`App.LabelsInComment.comments_hold`).
-/

namespace AppBundle

/-- A character that ends a line, and with it a comment. -/
def endsComment (c : Char) : Bool :=
  c = '\n' || c = '\r' || c = '\u2028' || c = '\u2029'

/-- A string that a comment holds as a whole. -/
def InComment (s : String) : Prop := ∀ c ∈ s.toList, endsComment c = false

namespace InComment

variable {s t : String}

@[simp] theorem append_iff : InComment (s ++ t) ↔ InComment s ∧ InComment t := by
  simp [InComment, or_imp, forall_and]

/-- The form for literals. -/
theorem ofChars {cs : List Char} (h : cs.any endsComment = false) :
    InComment (String.ofList cs) := by
  rw [InComment, String.toList_ofList]
  simpa using h

/-- Digits end no line. -/
@[simp] theorem decimal (n : Nat) : InComment (decimal n) := by
  intro c hc
  have hne : ∀ x : Char, x.isDigit = false → c ≠ x := fun x hx => ne_of_mem_decimal hx hc
  have hfeed := hne '\n' (by decide)
  have hreturn := hne '\r' (by decide)
  have hline := hne '\u2028' (by decide)
  have hparagraph := hne '\u2029' (by decide)
  simp [endsComment, hfeed, hreturn, hline, hparagraph]

theorem oneLine (h : InComment s) : OneLine s := fun hmem => absurd (h _ hmem) (by decide)

end InComment

/-! ## What stands in comments -/

/-- Two ends of lines are left when a text is put on one line. -/
theorem inComment_onOneLine {s : String} :
    InComment (onOneLine s) ↔ ∀ c ∈ s.toList, c ≠ '\u2028' ∧ c ≠ '\u2029' := by
  rw [onOneLine, InComment, String.toList_ofList, List.forall_mem_map]
  refine forall₂_congr fun c _ => ?_
  by_cases hc : c = '\n' ∨ c = '\r'
  · rw [if_pos (by simpa using hc)]
    rcases hc with rfl | rfl <;> decide
  · obtain ⟨hfeed, hreturn⟩ := not_or.mp hc
    rw [if_neg (by simpa using hc)]
    simp [endsComment, hfeed, hreturn]

/-- The comment that the entry begins with. -/
def entryComment (sourceId : String) : String :=
  "// Generated by melker-bundler from " ++ onOneLine sourceId ++ ". Do not edit."

namespace Handler

/-- The comment in front of the function of a handler. -/
def comment (h : Handler) : String :=
  "// " ++ h.description ++ " (line " ++ decimal h.element.line ++ ")"

/-- The labels of a handler that are put into its comment end no line. -/
structure LabelsInComment (h : Handler) : Prop where
  attr : InComment h.attr
  tag : InComment h.element.tag
  element : ∀ id ∈ h.element.id, InComment id

variable {h : Handler}

theorem inComment_label {e : Element} :
    InComment e.label ↔ InComment e.tag ∧ ∀ id ∈ e.id, InComment id := by
  have hopen : InComment "<" := .ofChars (by decide)
  have hmark : InComment "#" := .ofChars (by decide)
  have hclose : InComment ">" := .ofChars (by decide)
  unfold Element.label
  cases e.id with
  | none => simp [hopen, hclose]
  | some id => simp [hopen, hmark, hclose]

/-- A comment about a handler is one line exactly if the labels of the handler are. -/
theorem inComment_comment : InComment h.comment ↔ h.LabelsInComment := by
  have hslashes : InComment "// " := .ofChars (by decide)
  have hon : InComment " on " := .ofChars (by decide)
  have hline : InComment " (line " := .ofChars (by decide)
  have hclose : InComment ")" := .ofChars (by decide)
  have hsplit : InComment h.comment ↔ InComment h.attr ∧ InComment h.element.label := by
    simp [comment, description, hslashes, hon, hline, hclose]
  rw [hsplit, inComment_label]
  exact ⟨fun hh => ⟨hh.1, hh.2.1, hh.2.2⟩, fun hh => ⟨hh.attr, hh.tag, hh.element⟩⟩

/-! ## The lines of handlers -/

/-- The line feeds in the openings of the functions among the first lines of handlers. -/
def openingFeeds : List Handler → Nat → Nat
  | [], _ => 0
  | h :: hs, k =>
    if k < 2 then 0
    else Text.countFeeds h.opening.toList + openingFeeds hs (k - (h.bodyLines.length + 3))

/-- The pieces of the text of a handler, if its comment is one line. -/
def textPieces (h : Handler) : List (List Char) :=
  h.comment.toList :: Text.pieces h.opening.toList
    ++ h.bodyLines.map String.toList ++ ["\x7d".toList]

theorem length_entryLines (h : Handler) : h.entryLines.length = h.bodyLines.length + 3 := by
  simp [entryLines]

theorem length_textPieces (h : Handler) :
    h.textPieces.length = h.bodyLines.length + 3 + Text.countFeeds h.opening.toList := by
  simp [textPieces, Text.length_pieces]
  omega

theorem openingFeeds_of_lt {hs : List Handler} {k : Nat} (hk : k < 2) : openingFeeds hs k = 0 := by
  cases hs with
  | nil => rfl
  | cons h hs => rw [openingFeeds, if_pos hk]

theorem openingFeeds_eq_zero {hs : List Handler} (hone : ∀ h ∈ hs, OneLine h.opening) (k : Nat) :
    openingFeeds hs k = 0 := by
  induction hs generalizing k with
  | nil => rfl
  | cons h hs ih =>
    have hzero : Text.countFeeds h.opening.toList = 0 :=
      List.count_eq_zero.mpr (hone h List.mem_cons_self)
    rw [openingFeeds, hzero, ih fun x hx => hone x (List.mem_cons_of_mem h hx)]
    split <;> rfl

theorem flatMap_pieces_of_oneLine {ls : List CodeLine} (hls : ∀ l ∈ ls, OneLine l.text) :
    ls.flatMap (fun l => Text.pieces l.text.toList) = (ls.map (·.text)).map String.toList := by
  induction ls with
  | nil => rfl
  | cons l ls ih =>
    have hl : Text.pieces l.text.toList = [l.text.toList] :=
      Text.split_of_notMem (hls l List.mem_cons_self)
    rw [List.flatMap_cons, hl, ih fun x hx => hls x (List.mem_cons_of_mem l hx)]
    rfl

/-- The lines of a handler have these pieces; each line of its body is one. -/
theorem flatMap_pieces_codeLines (h : Handler) :
    h.codeLines.flatMap (fun l => Text.pieces l.text.toList) =
      Text.pieces h.comment.toList ++ Text.pieces h.opening.toList
        ++ h.bodyLines.map String.toList ++ ["\x7d".toList] := by
  have hmap := h.map_text_bodyFrom h.codeSpan.start.line h.bodyLines
  have hbody : ((h.bodyFrom h.codeSpan.start.line h.bodyLines).flatMap fun l =>
      Text.pieces l.text.toList) = h.bodyLines.map String.toList := by
    rw [flatMap_pieces_of_oneLine, hmap]
    intro l hl
    have hmem : l.text ∈ h.bodyLines := hmap ▸ List.mem_map_of_mem hl
    exact oneLine_of_mem_bodyLines hmem
  have hlast : Text.pieces "\x7d".toList = ["\x7d".toList] := Text.split_of_notMem (by decide)
  rw [codeLines, List.flatMap_append, List.flatMap_cons, List.flatMap_cons, hbody,
    List.flatMap_singleton]
  simp only [CodeLine.plain]
  rw [← comment, hlast]
  simp only [List.append_assoc]

/-- If its comment is one line, the text of a handler has that line in front of its function. -/
theorem flatMap_pieces_of_comment (hcomment : OneLine h.comment) :
    h.codeLines.flatMap (fun l => Text.pieces l.text.toList) = h.textPieces := by
  have hfirst : Text.pieces h.comment.toList = [h.comment.toList] := Text.split_of_notMem hcomment
  rw [flatMap_pieces_codeLines, hfirst, textPieces, List.singleton_append]

/-- Lines of handlers that repeat something are lines of bodies. -/
theorem getElem?_entryLines {k : Nat} {l : EntryLine} (hl : h.entryLines[k]? = some l)
    (hplace : l.place?.isSome = true) :
    ∃ j, k = j + 2 ∧ j < h.bodyLines.length ∧ l = .body h j := by
  have hscaffold : ∀ s, l ≠ .scaffold s := by
    rintro s rfl
    exact absurd hplace (by simp [EntryLine.place?])
  obtain ⟨comment, opening, close, hlines⟩ : ∃ comment opening close, h.entryLines =
      .scaffold comment :: .scaffold opening ::
        ((List.range h.bodyLines.length).map (.body h) ++ [.scaffold close]) :=
    ⟨_, _, _, by rw [entryLines, List.cons_append, List.cons_append]⟩
  rw [hlines] at hl
  rcases k with _ | _ | j
  · exact absurd (Option.some.inj hl).symm (hscaffold _)
  · exact absurd (Option.some.inj hl).symm (hscaffold _)
  · rw [List.getElem?_cons_succ, List.getElem?_cons_succ] at hl
    refine ⟨j, rfl, ?_⟩
    by_cases hj : j < h.bodyLines.length
    · rw [List.getElem?_append_left (by simpa using hj), List.getElem?_map,
        List.getElem?_range hj] at hl
      exact ⟨hj, (Option.some.inj hl).symm⟩
    · rw [List.getElem?_append_right (by simpa using hj)] at hl
      exact absurd (List.mem_singleton.mp (List.mem_of_getElem? hl)) (hscaffold _)

theorem getElem?_textPieces_body {j : Nat} (hj : j < h.bodyLines.length) :
    h.textPieces[j + 2 + Text.countFeeds h.opening.toList]? = some h.bodyLines[j].toList := by
  have hfront : (h.comment.toList :: Text.pieces h.opening.toList).length =
      Text.countFeeds h.opening.toList + 2 := by
    rw [List.length_cons, Text.length_pieces]
  have hindex : j + 2 + Text.countFeeds h.opening.toList - (Text.countFeeds h.opening.toList + 2) =
      j := by omega
  rw [textPieces, List.getElem?_append_left (by simp [Text.length_pieces]; omega),
    List.getElem?_append_right (by omega), hfront, hindex, List.getElem?_map,
    List.getElem?_eq_getElem hj]
  rfl

/-- Among the lines of handlers, one that repeats something stands where it is counted but for line
feeds in the openings of functions before it. -/
theorem getElem?_textPieces {hs : List Handler} {rest : List EntryLine}
    (hrest : ∀ l ∈ rest, l.place? = none) (sourceId : String) (tail : List (List Char)) {k : Nat}
    {l : EntryLine} (hl : (hs.flatMap entryLines ++ rest)[k]? = some l)
    (hplace : l.place?.isSome = true) :
    (hs.flatMap textPieces ++ tail)[k + openingFeeds hs k]? = some (l.text sourceId).toList := by
  induction hs generalizing k with
  | nil =>
    have hmem : l ∈ rest := List.mem_of_getElem? hl
    simp [hrest l hmem] at hplace
  | cons h hs ih =>
    rw [List.flatMap_cons, List.append_assoc] at hl ⊢
    by_cases hk : k < h.entryLines.length
    · -- the line is one of the first handler
      rw [List.getElem?_append_left hk] at hl
      obtain ⟨j, rfl, hj, rfl⟩ := getElem?_entryLines hl hplace
      have hfeeds : openingFeeds (h :: hs) (j + 2) = Text.countFeeds h.opening.toList := by
        rw [openingFeeds, if_neg (by omega), openingFeeds_of_lt (by omega), Nat.add_zero]
      have hbody := getElem?_textPieces_body hj
      rw [hfeeds, List.getElem?_append_left (List.getElem?_eq_some_iff.mp hbody).1, hbody,
        EntryLine.text_body hj]
    · -- the line is one of a later handler
      rw [List.getElem?_append_right (by omega)] at hl
      have hnext := ih hl
      rw [length_entryLines] at hk hnext
      have hindex : k + openingFeeds (h :: hs) k - h.textPieces.length =
          k - (h.bodyLines.length + 3) + openingFeeds hs (k - (h.bodyLines.length + 3)) := by
        rw [openingFeeds, if_neg (by omega), length_textPieces]
        omega
      rw [List.getElem?_append_right, hindex, hnext]
      rw [openingFeeds, if_neg (by omega), length_textPieces]
      omega

end Handler

/-! ## Comments of modules -/

theorem inComment_word (k : Timing) : InComment k.word := by
  cases k <;> exact .ofChars (by decide)

theorem inComment_inlineFile (i : Nat) : InComment (inlineFile i) := by
  unfold inlineFile
  rw [InComment.append_iff, InComment.append_iff]
  exact ⟨⟨.ofChars (by decide), .decimal i⟩, .ofChars (by decide)⟩

theorem inComment_momentFile (k : Timing) (i : Nat) : InComment (momentFile k i) := by
  unfold momentFile
  simp only [InComment.append_iff]
  exact ⟨⟨⟨⟨.ofChars (by decide), inComment_word k⟩, .ofChars (by decide)⟩, .decimal i⟩,
    .ofChars (by decide)⟩

theorem Script.inComment_comment (s : Script) {sourceId file : String}
    (hsource : InComment (onOneLine sourceId)) (hfile : InComment file) :
    InComment (s.comment sourceId file) := by
  unfold Script.comment
  simp only [InComment.append_iff]
  exact ⟨⟨⟨⟨⟨⟨⟨.ofChars (by decide), hfile⟩, .ofChars (by decide)⟩, inComment_word _⟩,
    .ofChars (by decide)⟩, hsource⟩, .ofChars (by decide)⟩, .decimal _⟩

/-! ## The whole app -/

theorem pieces_entryText (ls : List CodeLine) :
    Text.pieces (entryText ls).toList = (ls.flatMap fun l => Text.pieces l.text.toList) ++ [[]] := by
  rw [entryText, String.toList_ofList, Text.pieces_unlines_eq_flatMap, List.flatMap_map]

namespace App

/-- What is put into comments ends no line, but for the line feeds and carriage returns of the path,
which are stripped. -/
structure LabelsInComment (a : App) : Prop where
  source : ∀ c ∈ a.sourceId.toList, c ≠ '\u2028' ∧ c ≠ '\u2029'
  handlers : ∀ h ∈ a.generatedHandlers, h.LabelsInComment

variable (a : App)

/-- The line feeds in the openings of the functions in front of a line of the entry. -/
def openingFeeds (n : Nat) : Nat :=
  Handler.openingFeeds a.generatedHandlers (n - 1 - a.frontLines.length)

/-- The lines of the entry that publish the registry. -/
def registryLines : List CodeLine :=
  registrySection (registryMembers a.moments a.generatedHandlers)

/-- Comments hold what is put into them. -/
structure CommentsHold : Prop where
  /-- The text of the entry: the comment about a handler is one line, in front of its function. -/
  entry : Text.pieces a.generated.entry.toList =
    a.frontLines.map String.toList ++ (a.generatedHandlers.flatMap Handler.textPieces
      ++ Text.pieces (entryText a.registryLines).toList)
  /-- The first line of the entry is a comment. -/
  first : a.frontLines.head? = some (entryComment a.sourceId) ∧ InComment (entryComment a.sourceId)
  /-- Comments about handlers hold their labels. -/
  handlers : ∀ h ∈ a.generatedHandlers, InComment h.comment
  /-- The first line of a module is a comment. -/
  modules : ∀ m ∈ a.generated.modules, ∃ s ∈ a.scripts, ∃ rest,
    Text.pieces m.content.toList =
      (s.comment a.sourceId m.file).toList :: contextLine.toList :: rest ∧
    InComment (s.comment a.sourceId m.file)
  /-- A line of the table stands where its number says, but for line feeds in the openings of
  functions in front of it. -/
  keys : ∀ n o, a.generated.lineTable.get? n = some o → ∃ l, a.entryLine? n = some l ∧
    (Text.pieces a.generated.entry.toList)[n - 1 + a.openingFeeds n]? =
      some (l.text a.sourceId).toList
  /-- Where the openings of functions are on one line, it stands just there. -/
  keysExact (hopen : ∀ h ∈ a.generatedHandlers, OneLine h.opening) : ∀ n o,
    a.generated.lineTable.get? n = some o → ∃ l, a.entryLine? n = some l ∧
      (Text.pieces a.generated.entry.toList)[n - 1]? = some (l.text a.sourceId).toList

variable {a}

theorem length_frontLines : a.frontLines.length = a.leadingLines.length := by
  rw [frontLines_eq, List.length_map]

theorem LabelsInComment.pieces_entry (ha : a.LabelsInComment) :
    Text.pieces a.generated.entry.toList =
      a.frontLines.map String.toList ++ (a.generatedHandlers.flatMap Handler.textPieces
        ++ Text.pieces (entryText a.registryLines).toList) := by
  have hhandlers : ((a.generatedHandlers.flatMap Handler.codeLines).flatMap fun l =>
      Text.pieces l.text.toList) = a.generatedHandlers.flatMap Handler.textPieces := by
    rw [List.flatMap_assoc, List.flatMap_def, List.flatMap_def]
    refine congrArg List.flatten (List.map_congr_left fun h hh => ?_)
    exact Handler.flatMap_pieces_of_comment
      (Handler.inComment_comment.mpr (ha.handlers h hh)).oneLine
  rw [a.pieces_entry_front, pieces_entryText, pieces_entryText, handlerLines, List.flatMap_append,
    hhandlers, List.append_assoc]
  rfl

theorem LabelsInComment.keys (ha : a.LabelsInComment) {n : Nat} {o : LineOrigin}
    (ho : a.generated.lineTable.get? n = some o) :
    ∃ l, a.entryLine? n = some l ∧
      (Text.pieces a.generated.entry.toList)[n - 1 + a.openingFeeds n]? =
        some (l.text a.sourceId).toList := by
  rw [a.get?_lineTable] at ho
  obtain ⟨l, hl, horigin⟩ := Option.bind_eq_some_iff.mp ho
  refine ⟨l, hl, ?_⟩
  have hplace : l.place?.isSome = true := by
    rw [← l.origin_codeLine a.sourceId, horigin]
    rfl
  have hget : a.entryLines[n - 1]? = some l := by
    rw [entryLine?] at hl
    split at hl
    · exact absurd hl (by simp)
    · exact hl
  rw [ha.pieces_entry]
  by_cases hn : n - 1 < a.leadingLines.length
  · -- the line stands in front of the handlers, where each line has one piece
    have hzero : a.openingFeeds n = 0 :=
      Handler.openingFeeds_of_lt (by rw [length_frontLines]; omega)
    rw [entryLines, List.append_assoc, List.getElem?_append_left hn] at hget
    rw [hzero, Nat.add_zero, List.getElem?_append_left (by simpa [length_frontLines] using hn),
      frontLines_eq, List.map_map, List.getElem?_map, hget]
    rfl
  · -- the line is one of a handler, and the openings so far may have more pieces
    have hrest : ∀ l ∈ scaffolding a.registryLines, l.place? = none := by
      intro l hl
      obtain ⟨c, -, rfl⟩ := List.mem_map.mp hl
      rfl
    rw [entryLines, List.append_assoc, List.getElem?_append_right (by omega)] at hget
    have hbody := Handler.getElem?_textPieces hrest a.sourceId
      (Text.pieces (entryText a.registryLines).toList) hget hplace
    have hindex : n - 1 + a.openingFeeds n - (a.frontLines.map String.toList).length =
        n - 1 - a.leadingLines.length +
          Handler.openingFeeds a.generatedHandlers (n - 1 - a.leadingLines.length) := by
      rw [List.length_map, openingFeeds, length_frontLines]
      omega
    rw [List.getElem?_append_right (by rw [List.length_map, length_frontLines]; omega), hindex,
      hbody]

theorem exists_comment (hsource : InComment (onOneLine a.sourceId)) {m : Module}
    (hm : m ∈ a.generated.modules) : ∃ s ∈ a.scripts, ∃ rest,
      Text.pieces m.content.toList =
        (s.comment a.sourceId m.file).toList :: contextLine.toList :: rest ∧
      InComment (s.comment a.sourceId m.file) := by
  obtain ⟨p, hp, rfl⟩ := List.mem_map.mp hm
  rcases List.mem_append.mp hp with hp | hp
  · obtain ⟨l, hl, hmodule⟩ := List.mem_filterMap.mp hp
    obtain ⟨i, -, rfl⟩ := Option.map_eq_some_iff.mp hmodule
    exact ⟨l.script, script_mem_of_mem_loaded hl, _, l.script.pieces_inlineModule a.sourceId i,
      l.script.inComment_comment hsource (inComment_inlineFile i)⟩
  · obtain ⟨x, hx, rfl⟩ := List.mem_map.mp hp
    have hpieces := x.script.pieces_momentModule a.sourceId x.index
    have hcomment := x.script.inComment_comment hsource (inComment_momentFile x.script.kind x.index)
    rw [← x.script.file_momentModule_fst a.sourceId x.index] at hpieces hcomment
    exact ⟨x.script, script_mem_of_mem_moments hx, _, hpieces, hcomment⟩

/-- Comments hold what is put into them if it ends no line. -/
theorem LabelsInComment.comments_hold (ha : a.LabelsInComment) : a.CommentsHold := by
  have hsource : InComment (onOneLine a.sourceId) := inComment_onOneLine.mpr ha.source
  exact {
    entry := ha.pieces_entry
    first := by
      refine ⟨rfl, ?_⟩
      unfold entryComment
      rw [InComment.append_iff, InComment.append_iff]
      exact ⟨⟨.ofChars (by decide), hsource⟩, .ofChars (by decide)⟩
    handlers := fun h hh => Handler.inComment_comment.mpr (ha.handlers h hh)
    modules := fun m hm => exists_comment hsource hm
    keys := fun n o ho => ha.keys ho
    keysExact := by
      intro hopen n o ho
      have hzero : a.openingFeeds n = 0 := Handler.openingFeeds_eq_zero hopen _
      have hkey := ha.keys ho
      rwa [hzero] at hkey }

end App

/-- In the app with two scripts and a handler of two lines, comments hold what is put into them. -/
theorem counterApp_comments_hold : counterApp.LabelsInComment ∧ counterApp.CommentsHold := by
  have hlabels : counterApp.LabelsInComment := by
    constructor
    · have hall : counterApp.sourceId.toList.all (fun c => c ≠ '\u2028' && c ≠ '\u2029') = true :=
        by decide
      simpa only [List.all_eq_true, Bool.and_eq_true, decide_eq_true_eq] using hall
    · intro h hh
      obtain rfl : h = counterApp.handlers[0] := List.mem_singleton.mp hh
      exact ⟨.ofChars (by decide), .ofChars (by decide), by simp [counterApp]⟩
  exact ⟨hlabels, hlabels.comments_hold⟩

/-- A handler of an element whose name has a line feed in it. -/
def brokenHandler : Handler :=
  ⟨"__h0", "onClick", "a()", false, [], ⟨⟨1, 0, 0⟩, ⟨1, 0, 0⟩⟩, ⟨⟨1, 0, 0⟩, ⟨1, 3, 3⟩⟩,
    ⟨"b", some "x\ny()", 1⟩⟩

/-- An app with that handler. -/
def brokenName : App where
  sourceId := "/app.melker"
  content := ""
  template := ""
  scripts := []
  handlers := [brokenHandler]

/-- The name goes on behind the comment as code, and the body stands one line below the line that
the table gives it. -/
theorem brokenName_leaves_comment :
    (Text.pieces brokenName.generated.entry.toList)[5]? = some "// onClick on <b#x".toList ∧
      (Text.pieces brokenName.generated.entry.toList)[6]? = some "y()> (line 1)".toList ∧
      (Text.pieces brokenName.generated.entry.toList)[8]? = some "a()".toList ∧
      (brokenName.generated.lineTable.get? 8).map (·.owner) = some "__h0" := by
  have hcomment : Text.pieces brokenHandler.comment.toList =
      ["// onClick on <b#x".toList, "y()> (line 1)".toList] := by decide +kernel
  have hopening : Text.pieces brokenHandler.opening.toList =
      ["function __h0() \x7b".toList] := by decide +kernel
  have hbody : brokenHandler.bodyLines = ["a()"] := by decide +kernel
  have hlines : brokenName.handlerLines = brokenHandler.codeLines ++ brokenName.registryLines := by
    show [brokenHandler].flatMap Handler.codeLines ++ brokenName.registryLines = _
    rw [List.flatMap_singleton]
  have hlength : (brokenName.frontLines.map String.toList).length = 5 := rfl
  -- five lines stand in front of the comment
  have hget : ∀ i, (Text.pieces brokenName.generated.entry.toList)[5 + i]? =
      (["// onClick on <b#x".toList, "y()> (line 1)".toList, "function __h0() \x7b".toList,
        "a()".toList, "\x7d".toList]
          ++ Text.pieces (entryText brokenName.registryLines).toList)[i]? := by
    intro i
    rw [brokenName.pieces_entry_front, List.getElem?_append_right (by omega), hlength,
      Nat.add_sub_cancel_left, pieces_entryText, pieces_entryText, hlines, List.flatMap_append,
      brokenHandler.flatMap_pieces_codeLines, hcomment, hopening, hbody, List.append_assoc]
    rfl
  refine ⟨hget 0, hget 1, hget 3, ?_⟩
  rw [brokenName.get?_lineTable]
  rfl

end AppBundle
