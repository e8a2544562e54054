import AppBundle.Proofs.Entry.Comments
import AppBundle.Proofs.Import.Lines

/-!
# Scanning generated code

The entry and the modules are scanned part by part. Every generated line in front of authored code is
barred, and authored code stands alone between such lines (`App.found_entry`,
`Script.found_inlineModule`, `Script.found_momentModule`). So what is found in generated code is what
is found in its lines and in the authored code, as it stands there.
-/

namespace AppBundle

open Import

/-! ## Lines of the entry -/

theorem barred_of_mem_contextSection {sourceId : String} {l : CodeLine}
    (hl : l ∈ contextSection sourceId) : Barred l.text.toList := by
  simp only [contextSection, List.mem_cons, List.not_mem_nil, or_false] at hl
  rcases hl with rfl | rfl | rfl | rfl | rfl
  · exact .append _ (by decide)
  all_goals exact .ofChars (by decide)

theorem EntryImport.barred_line (i : EntryImport) : Barred i.line.toList := .append _ (by decide)

theorem barred_of_mem_mergeFunction {l : String} (hl : l ∈ mergeFunction) : Barred l.toList := by
  simp only [mergeFunction, List.mem_cons, List.not_mem_nil, or_false] at hl
  rcases hl with rfl | rfl | rfl | rfl | rfl | rfl | rfl | rfl
  · exact .ofChars (by decide)
  · exact .ofChars (by decide)
  · exact .ofChars (by decide)
  · exact .ofChars (by decide)
  · exact .ofHarmless (by decide)
  · exact .ofChars (by decide)
  · exact .ofHarmless (by decide)
  · exact .ofHarmless (by decide)

namespace App

variable (a : App)

theorem barred_of_mem_mergeCalls {l : String} (hl : l ∈ a.mergeCalls) : Barred l.toList := by
  obtain ⟨n, hn, rfl⟩ := List.mem_mapIdx.mp hl
  exact .append _ (by decide)

/-- A line of the function that awaits scripts of a moment. -/
theorem eq_of_mem_awaiting {name : String} {kind : Timing} {l : String}
    (hl : l ∈ a.awaiting name kind) :
    l = "async function " ++ name ++ "() \x7b" ∨
      (∃ n, l = "  await " ++ momentName kind n ++ "();") ∨ l = "\x7d" := by
  unfold awaiting at hl
  split at hl
  · exact absurd hl List.not_mem_nil
  · rcases List.mem_append.mp hl with hl | hl
    · rcases List.mem_cons.mp hl with rfl | hl
      · exact .inl rfl
      · obtain ⟨n, hn, rfl⟩ := List.mem_mapIdx.mp hl
        exact .inr (.inl ⟨n, rfl⟩)
    · exact .inr (.inr (List.mem_singleton.mp hl))

theorem barred_of_mem_awaiting {name : String} {kind : Timing} {l : String}
    (hl : l ∈ a.awaiting name kind) : Barred l.toList := by
  rcases a.eq_of_mem_awaiting hl with rfl | ⟨n, rfl⟩ | rfl
  · exact .append _ (by decide)
  · exact .append _ (by decide)
  · exact .ofHarmless (by decide)

theorem barred_of_mem_frontLines {l : String} (hl : l ∈ a.frontLines) : Barred l.toList := by
  simp only [frontLines, List.mem_append] at hl
  rcases hl with ((((hl | hl) | hl) | hl) | hl) | hl
  · obtain ⟨c, hc, rfl⟩ := List.mem_map.mp hl
    exact barred_of_mem_contextSection hc
  · obtain ⟨i, -, rfl⟩ := List.mem_map.mp hl
    exact i.barred_line
  · split at hl
    · exact absurd hl List.not_mem_nil
    · rcases List.mem_append.mp hl with hl | hl
      · exact barred_of_mem_mergeFunction hl
      · exact a.barred_of_mem_mergeCalls hl
  · obtain ⟨i, -, rfl⟩ := List.mem_map.mp hl
    exact i.barred_line
  · exact a.barred_of_mem_awaiting hl
  · exact a.barred_of_mem_awaiting hl

end App

/-! ## What is found in these lines -/

/-- A string of characters that an import may bind. -/
def Bindable (s : String) : Prop := ∀ c ∈ s.toList, isBinding c = true

namespace Bindable

variable {s t : String}

@[simp] theorem append_iff : Bindable (s ++ t) ↔ Bindable s ∧ Bindable t := by
  simp [Bindable, or_imp, forall_and]

/-- The form for literals. -/
theorem ofChars {cs : List Char} (h : cs.all isBinding = true) : Bindable (String.ofList cs) := by
  rw [Bindable, String.toList_ofList]
  exact List.all_eq_true.mp h

@[simp] theorem decimal (n : Nat) : Bindable (decimal n) := by
  intro c hc
  have hdigit : c.isDigit = true := by
    rw [AppBundle.decimal, String.toList_ofList] at hc
    exact Text.isDigit_of_mem_numeral hc
  have hword : Text.isWord c = true := by
    have hrange := hdigit
    simp only [Char.isDigit, Bool.and_eq_true, decide_eq_true_eq, UInt32.le_iff_toNat_le] at hrange
    have hsmall : c.toNat < 128 := lt_of_le_of_lt hrange.2 (by decide)
    rw [Text.isWord, if_pos hsmall, Text.isAsciiWord]
    simp [hdigit, Char.isAlphanum]
  rw [isBinding, hword, Bool.true_or, Bool.true_or]

theorem word (k : Timing) : Bindable k.word := by
  cases k <;> exact .ofChars (by decide)

theorem momentName (k : Timing) (n : Nat) : Bindable (momentName k n) := by
  unfold AppBundle.momentName
  simp only [append_iff]
  exact ⟨⟨⟨.ofChars (by decide), .word k⟩, .ofChars (by decide)⟩, .decimal n⟩

theorem unquoted (h : Bindable s) : Unquoted s.toList := unquoted_of_isBinding h

end Bindable

theorem unquoted_inlineFile (i : Nat) : Unquoted ("./" ++ inlineFile i).toList := by
  unfold inlineFile
  simp only [unquoted_append_iff]
  exact ⟨unquoted_ofChars (by decide), ⟨unquoted_ofChars (by decide), (Bindable.decimal i).unquoted⟩,
    unquoted_ofChars (by decide)⟩

theorem unquoted_momentFile (k : Timing) (i : Nat) : Unquoted ("./" ++ momentFile k i).toList := by
  unfold momentFile
  simp only [unquoted_append_iff]
  exact ⟨unquoted_ofChars (by decide), ⟨⟨⟨unquoted_ofChars (by decide), (Bindable.word k).unquoted⟩,
    unquoted_ofChars (by decide)⟩, (Bindable.decimal i).unquoted⟩, unquoted_ofChars (by decide)⟩

/-- What is put into a literal is found as a whole if it holds no quote. -/
theorem content_escape {s : String} (h : Unquoted s.toList) (hne : s ≠ "") :
    Content (Code.escape s).toList := by
  have hchar : ∀ c ∈ s.toList, ∀ d ∈ Code.escapeChar c, endsSpecifier d = false := by
    intro c hc d hd
    have hquote := h c hc
    unfold Code.escapeChar at hd
    split_ifs at hd with h1 h2 h3 h4 h5
    · rw [h1] at hquote
      exact absurd hquote (by decide)
    -- the other escapes are a backslash and a letter
    iterate 4
      · simp only [List.mem_cons, List.not_mem_nil, or_false] at hd
        rcases hd with rfl | rfl <;> decide
    · rw [List.mem_singleton.mp hd]
      simp [endsSpecifier, hquote, h3]
  rw [Code.escape, String.toList_ofList]
  constructor
  · intro hnil
    obtain ⟨c, cs, hcs⟩ := List.exists_cons_of_ne_nil (mt String.toList_eq_nil_iff.mp hne)
    rw [hcs, List.flatMap_cons, List.append_eq_nil_iff] at hnil
    have hescape : Code.escapeChar c ≠ [] := by
      unfold Code.escapeChar
      split_ifs <;> simp
    exact hescape hnil.1
  · intro d hd
    obtain ⟨c, hc, hd⟩ := List.mem_flatMap.mp hd
    exact hchar c hc d hd

/-- In the line of an import the target is found. -/
theorem found_line_literal {clause target : String} (hclause : Bindable clause)
    (ht : Content (Code.escape target).toList) :
    found ("import " ++ clause ++ " from " ++ Code.literal target ++ ";").toList =
      [(Code.escape target).toList] := by
  rw [← found_importLine hclause ht]
  simp [Code.literal, importWord, fromWord]

theorem found_of_mem_tail_contextSection {sourceId : String} {l : CodeLine}
    (hl : l ∈ (contextSection sourceId).tail) : found l.text.toList = [] := by
  simp only [contextSection, List.tail_cons, List.mem_cons, List.not_mem_nil, or_false] at hl
  rcases hl with rfl | rfl | rfl | rfl
  · exact found_unquoted (unquoted_ofChars (by decide))
  · exact found_ofChars (by decide +kernel)
  · exact found_unquoted (unquoted_ofChars (by decide))
  · exact found_unquoted (unquoted_ofChars (by decide))

/-- Of the declarations that every script may use, only the comment shows something of the app
file. -/
theorem flatMap_found_contextSection (sourceId : String) :
    (((contextSection sourceId).map (·.text)).map String.toList).flatMap found =
      found (entryComment sourceId).toList := by
  have htail : (((contextSection sourceId).tail.map (·.text)).map String.toList).flatMap found =
      [] := by
    rw [List.flatMap_eq_nil_iff, List.map_map]
    intro cs hcs
    obtain ⟨l, hl, rfl⟩ := List.mem_map.mp hcs
    exact found_of_mem_tail_contextSection hl
  have hcons : contextSection sourceId =
      .plain (entryComment sourceId) :: (contextSection sourceId).tail := rfl
  rw [hcons, List.map_cons, List.map_cons, List.flatMap_cons, htail, List.append_nil]
  rfl

theorem found_of_mem_mergeFunction {l : String} (hl : l ∈ mergeFunction) : found l.toList = [] := by
  simp only [mergeFunction, List.mem_cons, List.not_mem_nil, or_false] at hl
  rcases hl with rfl | rfl | rfl | rfl | rfl | rfl | rfl | rfl
  all_goals exact found_ofChars (by decide +kernel)

theorem App.found_of_mem_awaiting (a : App) {name : String} {kind : Timing} (hname : Bindable name)
    {l : String} (hl : l ∈ a.awaiting name kind) : found l.toList = [] := by
  rcases a.eq_of_mem_awaiting hl with rfl | ⟨n, rfl⟩ | rfl
  · refine found_unquoted ?_
    simp only [unquoted_append_iff]
    exact ⟨⟨unquoted_ofChars (by decide), hname.unquoted⟩, unquoted_ofChars (by decide)⟩
  · refine found_unquoted ?_
    simp only [unquoted_append_iff]
    exact ⟨⟨unquoted_ofChars (by decide), (Bindable.momentName _ _).unquoted⟩,
      unquoted_ofChars (by decide)⟩
  · exact found_unquoted (unquoted_ofChars (by decide))

/-! ## Authored code in the entry -/

namespace Handler

variable (h : Handler)

theorem found_body : found h.body = found h.code.toList := by
  obtain ⟨tail, hsplit, htail⟩ :=
    Text.exists_trimRight_append (· = '\n') (Text.unifyFeeds h.code.toList)
  have hfeed : ∀ c ∈ tail, c = '\n' := fun c hc => of_decide_eq_true (htail c hc)
  have hunquoted : Unquoted tail := fun c hc => by rw [hfeed c hc]; decide
  have hparen : ')' ∉ tail := fun hmem => absurd (hfeed _ hmem) (by decide)
  rw [← found_unifyFeeds h.code.toList, hsplit, found_ended hunquoted hparen]
  rfl

/-- The lines of a handler: its code stands between two lines and a closing brace. -/
theorem unlines_codeLines_append (y : List Char) :
    Text.unlines (h.codeLines.map (·.text.toList)) ++ y =
      h.comment.toList ++ '\n' :: (h.opening.toList ++ '\n' ::
        (h.body ++ '\n' :: '\x7d' :: '\n' :: y)) := by
  have htexts := h.map_text_bodyFrom h.codeSpan.start.line h.bodyLines
  have hbody : (h.bodyFrom h.codeSpan.start.line h.bodyLines).map (·.text.toList) =
      Text.pieces h.body := by
    rw [← h.map_toList_bodyLines]
    conv_rhs => rw [← htexts]
    rw [List.map_map]
    rfl
  have hlines : h.codeLines.map (·.text.toList) =
      h.comment.toList :: h.opening.toList :: (Text.pieces h.body ++ [['\x7d']]) := by
    rw [codeLines, List.map_append, List.map_cons, List.map_cons, hbody]
    rfl
  rw [hlines, Text.unlines, Text.unlines, Text.unlines_append, Text.unlines_pieces]
  simp only [Text.unlines, List.append_assoc, List.cons_append, List.nil_append]

theorem barred_comment : Barred h.comment.toList := .append _ (by decide)

theorem barred_opening : Barred h.opening.toList := .append _ (by decide)

theorem exists_comment_eq : ∃ cs, h.comment.toList = '/' :: cs :=
  ⟨'/' :: ' ' :: (h.description ++ " (line " ++ decimal h.element.line ++ ")").toList,
    by simp [comment]⟩

/-- What follows a function in the entry is a comment or the registry. -/
theorem comesToStop_codeLines {hs : List Handler} {y : List Char} (hy : ComesToStop y) :
    ComesToStop (Text.unlines ((hs.flatMap codeLines).map (·.text.toList)) ++ y) := by
  cases hs with
  | nil => exact hy
  | cons h hs =>
    rw [List.flatMap_cons, List.map_append, Text.unlines_append, List.append_assoc,
      unlines_codeLines_append]
    obtain ⟨cs, hcs⟩ := h.exists_comment_eq
    rw [hcs]
    exact ⟨[], '/', _, rfl, .ofChars (by decide), by simp, by decide, by decide⟩

/-- Handlers are scanned one by one. -/
theorem found_codeLines_append {hs : List Handler} {y : List Char} (hy : ComesToStop y) :
    found (Text.unlines ((hs.flatMap codeLines).map (·.text.toList)) ++ y) =
      hs.flatMap (fun h => found h.comment.toList ++ found h.opening.toList ++ found h.code.toList)
        ++ found y := by
  induction hs with
  | nil => rfl
  | cons h hs ih =>
    rw [List.flatMap_cons, List.map_append, Text.unlines_append, List.append_assoc,
      unlines_codeLines_append, found_line h.barred_comment, found_line h.barred_opening,
      found_block (comesToStop_codeLines hy), found_body, ih, List.flatMap_cons]
    simp only [List.append_assoc]

end Handler

namespace App

variable (a : App)

theorem comesToStop_registry : ComesToStop (entryText a.registryLines).toList := by
  have hfirst : ∀ members, ∃ line rest, registrySection members = .plain line :: rest ∧
      ∃ cs, line.toList = "globalThis".toList ++ '.' :: cs := by
    intro members
    unfold registrySection
    split
    · refine ⟨_, _, rfl, (registryName ++ " = \x7b\x7d;").toList, ?_⟩
      simp
    · refine ⟨_, _, rfl, (registryName ++ " = \x7b").toList, ?_⟩
      simp
  obtain ⟨line, rest, hlines, cs, hline⟩ := hfirst (registryMembers a.moments a.generatedHandlers)
  refine ⟨"globalThis".toList, '.', cs ++ '\n' :: Text.unlines (rest.map (·.text.toList)), ?_,
    .ofChars (by decide), by decide, by decide, by decide⟩
  rw [entryText, String.toList_ofList, registryLines, hlines, List.map_cons, Text.unlines,
    CodeLine.plain, hline, List.append_assoc, List.cons_append]

/-- The entry is scanned part by part. -/
theorem found_entry :
    found a.generated.entry.toList =
      (a.frontLines.map String.toList).flatMap found
        ++ a.generatedHandlers.flatMap (fun h =>
          found h.comment.toList ++ found h.opening.toList ++ found h.code.toList)
        ++ found (entryText a.registryLines).toList := by
  have hhandlers : (entryText a.handlerLines).toList =
      Text.unlines ((a.generatedHandlers.flatMap Handler.codeLines).map (·.text.toList))
        ++ (entryText a.registryLines).toList := by
    rw [entryText, entryText, String.toList_ofList, String.toList_ofList, handlerLines,
      List.map_append, Text.unlines_append]
    rfl
  have hfront : ∀ l ∈ a.frontLines.map String.toList, Barred l := by
    intro cs hcs
    obtain ⟨l, hl, rfl⟩ := List.mem_map.mp hcs
    exact a.barred_of_mem_frontLines hl
  rw [a.toList_entry, found_unlines_append hfront, hhandlers,
    Handler.found_codeLines_append a.comesToStop_registry, List.append_assoc]

end App

/-! ## Whole modules -/

theorem absoluteReference_ne_empty (sourceId reference : String) :
    absoluteReference sourceId reference ≠ "" := by
  rw [absoluteReference]
  split
  · next hscheme =>
    rintro rfl
    exact absurd hscheme (by decide +kernel)
  · split
    · next u hu =>
      obtain ⟨d, tail, htext, -⟩ := letter_of_resolved hu
      rw [htext, Ne, String.ofList_eq_empty_iff]
      exact List.cons_ne_nil _ _
    · rw [joinFolder]
      split
      · next hslash =>
        rintro rfl
        exact absurd hslash (by decide +kernel)
      · intro hempty
        have htext := congrArg String.toList hempty
        simp at htext

/-- Behind the code of a module are line feeds and the brace that closes a function. -/
theorem exists_closing (code : String) {footer : Option String}
    (hfooter : ∀ line ∈ footer, line = "\x7d") :
    ∃ tail, (closedCode code ++ footerText footer).toList = code.toList ++ tail ∧
      ∀ c ∈ tail, c = '\n' ∨ c = '\x7d' := by
  have hfoot : ∀ c ∈ (footerText footer).toList, c = '\n' ∨ c = '\x7d' := by
    cases footer with
    | none => simp [footerText]
    | some line =>
      rw [hfooter line rfl, footerText]
      simp
  unfold closedCode
  split
  · exact ⟨_, String.toList_append, hfoot⟩
  · refine ⟨'\n' :: (footerText footer).toList, by simp, ?_⟩
    exact List.forall_mem_cons.mpr ⟨.inl rfl, hfoot⟩

/-- A module is scanned part by part: the lines of its header, and the code behind them. -/
theorem found_moduleText {front : List String} (hfront : ∀ l ∈ front, Barred l.toList)
    {last statement : String} (hlast : last = statement ++ ";") (hone : OneLine last)
    (hunquoted : Unquoted statement.toList) (code : String) {footer : Option String}
    (hfooter : ∀ line ∈ footer, line = "\x7d") :
    found (moduleText (front ++ [last]) code footer).toList =
      (front.map String.toList).flatMap found ++ found code.toList := by
  have hlines : ∀ l ∈ front.map String.toList, Barred l := by
    intro cs hcs
    obtain ⟨l, hl, rfl⟩ := List.mem_map.mp hcs
    exact hfront l hl
  have hne : last ≠ "" := by
    rw [hlast]
    simp
  obtain ⟨tail, htail, hclosing⟩ := exists_closing code hfooter
  have hunquoted' : Unquoted tail := fun c hc => by
    rcases hclosing c hc with rfl | rfl <;> decide
  have hparen : ')' ∉ tail := fun hmem => absurd (hclosing _ hmem) (by decide)
  have htext : (last ++ closedCode code ++ footerText footer).toList =
      statement.toList ++ ';' :: (code.toList ++ tail) := by
    rw [String.append_assoc, String.toList_append, htail, hlast, String.toList_append,
      List.append_assoc]
    rfl
  rw [toList_moduleText hone hne, found_unlines_append hlines, htext, found_statement hunquoted,
    found_ended hunquoted' hparen]

namespace Script

variable (s : Script) (sourceId : String)

theorem barred_comment (file : String) : Barred (s.comment sourceId file).toList := by
  have hdigits : ∀ d ∈ (decimal s.span.start.line).toList, isHarmless d = true := by
    intro d hd
    have hne : ∀ x : Char, x.isDigit = false → d ≠ x := fun x hx => ne_of_mem_decimal hx hd
    have hquote : isQuote d = false := unquoted_of_isBinding (Bindable.decimal _) d hd
    exact isHarmless_iff.mpr ⟨hquote, hne _ (by decide), hne _ (by decide)⟩
  obtain ⟨front, hfront⟩ : ∃ front, (s.comment sourceId file).toList =
      front ++ ':' :: (decimal s.span.start.line).toList := by
    refine ⟨("// " ++ file ++ ": " ++ s.kind.word ++ " script from "
      ++ onOneLine sourceId).toList, ?_⟩
    simp [comment]
  rw [hfront]
  exact .stop front (by decide) hdigits

theorem found_contextLine : found contextLine.toList = [] :=
  found_unquoted (unquoted_ofChars (by decide))

theorem found_argumentsLine : found argumentsLine.toList = [] :=
  found_unquoted (unquoted_ofChars (by decide))

theorem barred_contextLine : Barred contextLine.toList := .ofChars (by decide)

theorem barred_argumentsLine : Barred argumentsLine.toList := .ofChars (by decide)

theorem barred_exportLine (i : Nat) : Barred (s.exportLine i).toList := .append _ (by decide)

theorem found_exportLine (i : Nat) : found (s.exportLine i).toList = [] := by
  refine found_unquoted ?_
  unfold exportLine
  simp only [unquoted_append_iff]
  exact ⟨⟨unquoted_ofChars (by decide), (Bindable.momentName _ _).unquoted⟩,
    unquoted_ofChars (by decide)⟩

/-- In the code of a script, what is found is resolved as it is moved. -/
theorem found_moduleCode {sourceId : String} (hjoin : Joinable sourceId)
    (hinside : ∀ i ∈ scan s.code, isRelative i.specifier = true →
      ∀ c ∈ (absoluteReference sourceId i.specifier).toList, endsSpecifier c = false) :
    found (s.moduleCode sourceId).toList = (found s.code.toList).map (resolveText sourceId) := by
  have hkeep : AllKeep (resolveText sourceId) (chunks (Text.unifyFeeds s.code.toList)) := by
    intro t ht
    have hmem : t ∈ found s.code.toList := by
      rw [← found_unifyFeeds]
      exact List.mem_filterMap.mpr ⟨_, ht, rfl⟩
    have hscan : String.ofList t ∈ specifiersIn s.code := by
      rw [specifiersIn_eq]
      exact List.mem_map_of_mem hmem
    obtain ⟨i, hi, heq⟩ := List.mem_map.mp hscan
    refine keeps_resolveText hjoin (content_of_mem ht) ?_
    rw [← heq]
    exact hinside i hi
  rw [moduleCode, toList_resolveAll, withFeeds, String.toList_ofList, found_exchanged hkeep,
    found_unifyFeeds]

theorem found_inlineModule (i : Nat) :
    found (s.inlineModule sourceId i).1.content.toList =
      found (s.comment sourceId (inlineFile i)).toList
        ++ found (s.moduleCode sourceId).toList := by
  have hfront : ∀ l ∈ [s.comment sourceId (inlineFile i), contextLine], Barred l.toList := by
    simp only [List.forall_mem_cons]
    exact ⟨s.barred_comment _ _, barred_contextLine, by simp⟩
  have hlast : argumentsLine = "const argv = globalThis.argv ?? []" ++ ";" := by decide
  rw [content_inlineModule, found_moduleText hfront hlast oneLine_argumentsLine
    (unquoted_ofChars (by decide)) _ (by simp)]
  simp [found_contextLine]

theorem found_momentModule (i : Nat) :
    found (s.momentModule sourceId i).1.content.toList =
      found (s.comment sourceId (momentFile s.kind i)).toList
        ++ ((s.outsideImport sourceId).map String.toList).flatMap found
        ++ found (s.momentBody sourceId).toList := by
  have hfront : ∀ l ∈ [s.comment sourceId (momentFile s.kind i), contextLine, argumentsLine]
      ++ s.outsideImport sourceId ++ [s.exportLine i], Barred l.toList := by
    simp only [List.forall_mem_append, List.forall_mem_cons]
    refine ⟨⟨⟨s.barred_comment _ _, barred_contextLine, barred_argumentsLine, by simp⟩, ?_⟩,
      s.barred_exportLine i, by simp⟩
    unfold outsideImport
    split
    · exact List.forall_mem_cons.mpr ⟨.append _ (by decide), by simp⟩
    · simp
  have hlast : exportsLine = "const $app = $melker.exports" ++ ";" := by decide
  rw [content_momentModule, found_moduleText hfront hlast oneLine_exportsLine
    (unquoted_ofChars (by decide)) _ (by simp)]
  simp [found_contextLine, found_argumentsLine, found_exportLine]

end Script

end AppBundle
