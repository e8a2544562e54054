import AppBundle.Proofs.Entry.Parts
import AppBundle.Proofs.Template.Splice
import AppBundle.Proofs.Text.Lines
import Mathlib.Data.List.Nodup

/-!
# What the calls in a template run

The attributes of a template are replaced by calls of members of the registry, and the entry defines
the functions that the registry publishes. The two are made apart from each other: the entry leaves
out a handler whose name came before, the template has the attributes of all of them replaced. So
the member that an attribute calls is the first handler with the name (`spliceHandlers_calls`): the
handler of the attribute, unless one in front of it has its name.

That a name is defined and listed only once takes names that are names, and that are not those of
the functions and members which the entry has anyway (`App.NamesApart`).
-/

namespace AppBundle

open AppBundle.Text

/-! ## What an entry defines -/

/-- The name of the function that a text opens. -/
def opened? (cs : List Char) : Option String :=
  (after? "async function ".toList cs <|> after? "function ".toList cs).map fun rest =>
    String.ofList (rest.takeWhile (· ≠ '('))

/-- The name of the function that a line opens; lines of the app file are the insides of functions
and open none. -/
def CodeLine.function? (l : CodeLine) : Option String :=
  if l.origin.isSome then none else opened? l.text.toList

/-- The name of a member of the registry, which stands in front of its value if it has another. -/
def memberName (m : String) : String :=
  String.ofList (m.toList.takeWhile (· ≠ ':'))

namespace App

variable (a : App)

/-- The functions that the entry defines. -/
def functions : List String :=
  a.codeLines.filterMap CodeLine.function?

/-- The members that the registry publishes. -/
def members : List String :=
  registryMembers a.moments a.generatedHandlers

/-- The functions of the entry that are not handlers. -/
def ownFunctions : List String :=
  (if a.loaded.isEmpty then [] else ["__melkerMergeExports"])
    ++ (if (a.moments.filter (·.script.kind = .init)).isEmpty then [] else [initName])
    ++ (if (a.moments.filter (·.script.kind = .ready)).isEmpty then [] else [readyName])

/-- The names of the members that are not handlers. -/
def ownMembers : List String :=
  (if a.moments.any (·.script.kind = .init) then ["init"] else [])
    ++ (if a.moments.any (·.script.kind = .ready) then ["ready"] else [])

/-- No name of a handler has a character in it at which names of functions or members are read to
end, and none is that of a function or member that the entry has anyway. -/
def NamesApart : Prop :=
  ∀ h ∈ a.handlers, '(' ∉ h.id.toList ∧ ':' ∉ h.id.toList ∧
    h.id ∉ a.ownFunctions ∧ h.id ∉ a.ownMembers

instance : Decidable a.NamesApart :=
  inferInstanceAs (Decidable (∀ h ∈ a.handlers, _))

/-- What the entry has for a call of a handler. -/
structure Answers (h : Handler) : Prop where
  /-- Its function, with its name and parameters, asynchronous if its code awaits, around the lines
  of its code. -/
  function : ∃ front body back,
    a.codeLines = front ++ .plain h.opening :: body ++ .plain "\x7d" :: back ∧
      (∀ l ∈ body, l.origin.map (·.owner) = some h.id) ∧
      join ['\n'] (body.map (·.text.toList)) =
        trimRight (· = '\n') (withFeeds h.code).toList
  /-- The registry, with its name in it. -/
  member : registrySection a.members <:+ a.codeLines ∧ h.id ∈ a.members
  /-- No other function has its name. -/
  functionOnce : a.NamesApart → a.functions.count h.id = 1
  /-- No other member has its name. -/
  memberOnce : a.NamesApart → (a.members.map memberName).count h.id = 1

end App

/-! ## Which lines open functions -/

theorem Handler.function?_opening {h : Handler} (hp : '(' ∉ h.id.toList) :
    (CodeLine.plain h.opening).function? = some h.id := by
  have hrest : ∀ rest, String.ofList ((h.id.toList ++ '(' :: rest).takeWhile (· ≠ '(')) = h.id := by
    intro rest
    rw [takeWhile_ne_append hp, String.ofList_toList]
  have htext : h.opening.toList = (if h.awaits then "async function " else "function ").toList
      ++ (h.id.toList ++ '(' :: (h.paramList ++ ") \x7b").toList) := by
    simp [Handler.opening]
  show opened? h.opening.toList = some h.id
  rw [htext, opened?]
  cases h.awaits with
  | true =>
    rw [if_pos rfl, after?_append]
    exact congrArg some (hrest _)
  | false =>
    have hasync : ∀ cs, after? "async function ".toList ("function ".toList ++ cs) = none :=
      fun _ => rfl
    rw [if_neg (by simp), hasync, after?_append]
    exact congrArg some (hrest _)

theorem function?_of_head {s : String} {c : Char} (hs : s.toList.head? = some c) (ha : 'a' ≠ c)
    (hf : 'f' ≠ c) : (CodeLine.plain s).function? = none := by
  obtain ⟨cs, hcs⟩ := List.head?_eq_some_iff.mp hs
  show opened? s.toList = none
  have hasync : after? "async function ".toList (c :: cs) = none := if_neg ha
  have hfunction : after? "function ".toList (c :: cs) = none := if_neg hf
  rw [hcs, opened?, hasync, hfunction]
  rfl

theorem filterMap_function?_of_origin {ls : List CodeLine} (h : ∀ l ∈ ls, l.origin.isSome) :
    ls.filterMap CodeLine.function? = [] := by
  rw [List.filterMap_eq_nil_iff]
  intro l hl
  exact if_pos (h l hl)

theorem filterMap_contextSection (sourceId : String) :
    (contextSection sourceId).filterMap CodeLine.function? = [] := by
  rw [List.filterMap_eq_nil_iff]
  intro l hl
  simp only [contextSection, List.mem_cons, List.not_mem_nil, or_false] at hl
  rcases hl with rfl | rfl | rfl | rfl | rfl
  · have hhead : ("// Generated by melker-bundler from " ++ onOneLine sourceId
        ++ ". Do not edit.").toList.head? = some '/' := by simp
    exact function?_of_head hhead (by decide) (by decide)
  all_goals decide

theorem filterMap_mergeSection (ls : List LoadedScript) :
    (mergeSection ls).filterMap CodeLine.function? =
      if ls.isEmpty then [] else ["__melkerMergeExports"] := by
  have hcalls : (ls.map LoadedScript.mergeLine).filterMap CodeLine.function? = [] := by
    refine filterMap_function?_of_origin fun l hl => ?_
    obtain ⟨s, -, rfl⟩ := List.mem_map.mp hl
    rfl
  have hfunction : (mergeFunction.map CodeLine.plain).filterMap CodeLine.function? =
      ["__melkerMergeExports"] := by decide
  unfold mergeSection
  split
  · rfl
  · rw [List.filterMap_append, hfunction, hcalls, List.append_nil]

theorem filterMap_awaitSection (name : String)
    (hname : (CodeLine.plain ("async function " ++ name ++ "() \x7b")).function? = some name)
    (ms : List MomentScript) :
    (awaitSection name ms).filterMap CodeLine.function? = if ms.isEmpty then [] else [name] := by
  have hlines : (ms.map MomentScript.awaitLine).filterMap CodeLine.function? = [] := by
    refine filterMap_function?_of_origin fun l hl => ?_
    obtain ⟨m, -, rfl⟩ := List.mem_map.mp hl
    rfl
  unfold awaitSection
  split
  · rfl
  · rw [List.filterMap_append, List.filterMap_cons, hname, hlines]
    rfl

theorem filterMap_registrySection (members : List String) :
    (registrySection members).filterMap CodeLine.function? = [] := by
  rw [List.filterMap_eq_nil_iff]
  intro l hl
  unfold registrySection at hl
  split at hl
  · rw [List.mem_singleton.mp hl]
    decide
  · rcases List.mem_append.mp hl with hl | hl
    · rcases List.mem_cons.mp hl with rfl | hl
      · decide
      · obtain ⟨m, -, rfl⟩ := List.mem_map.mp hl
        have hhead : ("  " ++ m ++ ",").toList.head? = some ' ' := by simp
        exact function?_of_head hhead (by decide) (by decide)
    · rw [List.mem_singleton.mp hl]
      decide

namespace Handler

variable (h : Handler)

theorem owner_of_mem_bodyFrom {line : Nat} {texts : List String} {l : CodeLine}
    (hl : l ∈ h.bodyFrom line texts) : l.origin.map (·.owner) = some h.id := by
  induction texts generalizing line with
  | nil => exact absurd hl (by simp [bodyFrom])
  | cons t texts ih =>
    rcases List.mem_cons.mp hl with rfl | hl
    · rfl
    · exact ih hl

/-- The lines of the body put together are the code. -/
theorem join_bodyFrom (line : Nat) :
    join ['\n'] ((h.bodyFrom line h.bodyLines).map (·.text.toList)) =
      trimRight (· = '\n') (withFeeds h.code).toList := by
  have htexts : (h.bodyFrom line h.bodyLines).map (·.text.toList) =
      pieces (trimRight (· = '\n') (withFeeds h.code).toList) := by
    have hbody := congrArg (List.map String.toList) (h.map_text_bodyFrom line h.bodyLines)
    rw [List.map_map] at hbody
    refine hbody.trans ?_
    simp [bodyLines]
  rw [htexts]
  exact join_split _ _

/-- The function of a handler is the only one among its lines. -/
theorem filterMap_codeLines (hp : '(' ∉ h.id.toList) :
    h.codeLines.filterMap CodeLine.function? = [h.id] := by
  have hcomment : (CodeLine.plain
      ("// " ++ h.description ++ " (line " ++ decimal h.element.line ++ ")")).function? = none := by
    refine function?_of_head (c := '/') ?_ (by decide) (by decide)
    simp
  have hbody : (h.bodyFrom h.codeSpan.start.line h.bodyLines).filterMap CodeLine.function? = [] := by
    refine filterMap_function?_of_origin fun l hl => ?_
    have howner := congrArg Option.isSome (h.owner_of_mem_bodyFrom hl)
    rwa [Option.isSome_map] at howner
  have hclosing : (CodeLine.plain "\x7d").function? = none := by decide
  rw [codeLines, List.filterMap_append, List.filterMap_cons, hcomment, List.filterMap_cons,
    function?_opening hp, hbody, List.filterMap_cons, hclosing]
  rfl

end Handler

/-! ## The functions and the members of an entry -/

namespace App

variable {a : App}

theorem mem_generatedHandlers {h : Handler} (hh : h ∈ a.generatedHandlers) : h ∈ a.handlers :=
  (firstHandlers_sublist [] a.handlers).subset hh

/-- The functions of an entry are its own and those of the handlers that are generated. -/
theorem functions_eq (hp : ∀ h ∈ a.handlers, '(' ∉ h.id.toList) :
    a.functions = a.ownFunctions ++ a.generatedHandlers.map (·.id) := by
  have hloaded : (a.loaded.map (LoadedScript.importLine a.sourceId)).filterMap
      CodeLine.function? = [] := by
    refine filterMap_function?_of_origin fun l hl => ?_
    obtain ⟨s, -, rfl⟩ := List.mem_map.mp hl
    unfold LoadedScript.importLine
    split <;> rfl
  have hmoments : (a.moments.map MomentScript.importLine).filterMap CodeLine.function? = [] := by
    refine filterMap_function?_of_origin fun l hl => ?_
    obtain ⟨m, -, rfl⟩ := List.mem_map.mp hl
    rfl
  -- only handlers and the sections that await have functions
  have hinit := filterMap_awaitSection initName (by decide)
    (a.moments.filter (·.script.kind = .init))
  have hready := filterMap_awaitSection readyName (by decide)
    (a.moments.filter (·.script.kind = .ready))
  have hhandlers : (a.generatedHandlers.flatMap Handler.codeLines).filterMap CodeLine.function? =
      a.generatedHandlers.map (·.id) := by
    rw [List.filterMap_flatMap, List.map_eq_flatMap]
    refine List.flatMap_congr fun h hh => ?_
    exact h.filterMap_codeLines (hp h (mem_generatedHandlers hh))
  rw [functions, codeLines, scriptLines]
  simp only [List.filterMap_append, filterMap_contextSection, hloaded, filterMap_mergeSection,
    hmoments, hinit, hready, hhandlers, filterMap_registrySection, List.nil_append,
    List.append_nil, ownFunctions]

theorem map_memberName (hc : ∀ h ∈ a.handlers, ':' ∉ h.id.toList) :
    a.members.map memberName = a.ownMembers ++ a.generatedHandlers.map (·.id) := by
  have hhandlers : (a.generatedHandlers.map (·.id)).map memberName =
      a.generatedHandlers.map (·.id) := by
    rw [List.map_map]
    refine List.map_congr_left fun h hh => ?_
    have hall : ∀ c ∈ h.id.toList, decide (c ≠ ':') = true := by
      intro c hmem
      exact decide_eq_true fun e => hc h (mem_generatedHandlers hh) (e ▸ hmem)
    rw [Function.comp_apply, memberName, List.takeWhile_eq_self_iff.mpr hall, String.ofList_toList]
  have hinit : memberName ("init: " ++ initName) = "init" := by decide
  have hready : memberName ("ready: " ++ readyName) = "ready" := by decide
  rw [members, registryMembers, List.map_append, List.map_append, hhandlers, ownMembers]
  congr 2
  · split
    · exact congrArg (fun m => [m]) hinit
    · rfl
  · split
    · exact congrArg (fun m => [m]) hready
    · rfl

/-- The handlers that are generated are answered for. -/
theorem answers_of_mem {h : Handler} (hh : h ∈ a.generatedHandlers) : a.Answers h := by
  have honce : ∀ own, h.id ∉ own → (own ++ a.generatedHandlers.map (·.id)).count h.id = 1 := by
    intro own hown
    have hmem : h.id ∈ a.generatedHandlers.map (·.id) := List.mem_map_of_mem hh
    rw [List.count_append, List.count_eq_zero_of_not_mem hown, Nat.zero_add]
    exact List.count_eq_one_of_mem (nodup_firstHandlers [] a.handlers) hmem
  obtain ⟨before, after, hsplit⟩ := List.append_of_mem hh
  obtain ⟨comment, hlines⟩ : ∃ comment, h.codeLines = comment :: .plain h.opening ::
      h.bodyFrom h.codeSpan.start.line h.bodyLines ++ [.plain "\x7d"] := ⟨_, rfl⟩
  have hentry : a.codeLines = a.scriptLines ++ before.flatMap Handler.codeLines ++ [comment]
      ++ .plain h.opening :: h.bodyFrom h.codeSpan.start.line h.bodyLines
      ++ .plain "\x7d" :: (after.flatMap Handler.codeLines ++ registrySection a.members) := by
    rw [codeLines, ← members, hsplit, List.flatMap_append, List.flatMap_cons, hlines]
    simp only [List.append_assoc, List.cons_append, List.nil_append]
  refine ⟨⟨_, _, _, hentry, fun l hl => h.owner_of_mem_bodyFrom hl, h.join_bodyFrom _⟩,
    ⟨List.suffix_append _ _, ?_⟩, fun hn => ?_, fun hn => ?_⟩
  · exact List.mem_append_right _ (List.mem_map_of_mem hh)
  · rw [functions_eq fun g hg => (hn g hg).1]
    exact honce _ (hn h (mem_generatedHandlers hh)).2.2.1
  · rw [map_memberName fun g hg => (hn g hg).2.1]
    exact honce _ (hn h (mem_generatedHandlers hh)).2.2.2

/-! ## Calls -/

/-- The first handler with the name of a handler: it itself, or one in front of it. -/
theorem exists_first {g : Handler} {hs : List Handler} (hg : g ∈ hs) :
    ∃ before h after, hs = before ++ h :: after ∧ (∀ b ∈ before, b.id ≠ g.id) ∧ h.id = g.id ∧
      (h = g ∨ g ∈ after) := by
  induction hs with
  | nil => exact absurd hg (by simp)
  | cons x hs ih =>
    by_cases hx : x.id = g.id
    · exact ⟨[], x, hs, rfl, by simp, hx, (List.mem_cons.mp hg).imp_left Eq.symm⟩
    · have hgs : g ∈ hs := by
        rcases List.mem_cons.mp hg with rfl | hgs
        · exact absurd rfl hx
        · exact hgs
      obtain ⟨before, h, after, rfl, hbefore, hid, hor⟩ := ih hgs
      refine ⟨x :: before, h, after, rfl, fun b hb => ?_, hid, hor⟩
      rcases List.mem_cons.mp hb with rfl | hb
      · exact hx
      · exact hbefore b hb

theorem mem_of_mem_replaceable {template : List Char} {floor : Nat} {h : Handler}
    {hs : List Handler} (hh : h ∈ replaceable template floor hs) : h ∈ hs :=
  (replaceable_sublist template floor hs).subset hh

/-- An attribute that is replaced calls the first handler with the name of its handler, which is
that handler unless one in front of it has its name; and the entry answers for the handler that is
called. -/
theorem spliceHandlers_calls (a : App) :
    ∃ ps kept, a.template.toList = Patch.before ps ++ kept ∧
      (spliceHandlers a.template a.handlers).text.toList = Patch.after ps ++ kept ∧
      Patch.From 0 ps ∧
      ps.map (·.handler) = (replaceable a.template.toList (byteLength a.template.toList)
        (placedHandlers a.handlers)).reverse ∧
      ∀ p ∈ ps, p.handler.isSignIn = false ∧
        ∃ before h after, a.handlers = before ++ h :: after ∧
          (∀ b ∈ before, b.id ≠ p.handler.id) ∧ h.id = p.handler.id ∧
          (h = p.handler ∨ p.handler ∈ after) ∧ a.Answers h := by
  obtain ⟨ps, kept, hbefore, hafter, hfrom, hmap⟩ := exists_patches (.start a.template)
    (placedHandlers a.handlers) (List.append_nil a.template.toList).symm
  have htext : (spliceHandlers a.template a.handlers).text.toList =
      (spliceHandlers a.template a.handlers).front
        ++ (spliceHandlers a.template a.handlers).tail := String.toList_ofList
  refine ⟨ps, kept, hbefore, ?_, hfrom, hmap, fun p hp => ?_⟩
  · rw [htext]
    simpa only [spliceHandlers, Splicing.start, List.append_nil] using hafter
  · have hplaced : p.handler ∈ placedHandlers a.handlers := by
      have hmem : p.handler ∈ ps.map (·.handler) := List.mem_map_of_mem hp
      rw [hmap, List.mem_reverse] at hmem
      exact mem_of_mem_replaceable hmem
    rw [placedHandlers, List.mem_mergeSort, List.mem_filter] at hplaced
    obtain ⟨hmem, hsign⟩ := hplaced
    obtain ⟨before, h, after, hsplit, hnames, hid, hor⟩ := exists_first hmem
    refine ⟨by simpa using hsign, before, h, after, hsplit, hnames, hid, hor, ?_⟩
    have hfirst : ∀ b ∈ before, b.id ≠ h.id := by
      rw [hid]
      exact hnames
    exact answers_of_mem (mem_firstHandlers.mpr ⟨by simp, before, after, hsplit, hfirst⟩)

end App

/-! ### Two buttons -/

/-- The handler of a button, with the range of its attribute. -/
def buttonHandler (id code : String) (first last : Nat) : Handler where
  id := id
  attr := "onClick"
  code := code
  awaits := false
  params := ["event"]
  attrSpan := ⟨⟨1, first, first⟩, ⟨1, last, last⟩⟩
  codeSpan := ⟨⟨1, first + 9, first + 9⟩, ⟨1, last - 1, last - 1⟩⟩
  element := ⟨"b", none, 1⟩

/-- An app with two buttons, whose handlers have given names. -/
def twoButtons (id id' : String) : App where
  sourceId := "/app.melker"
  content := "<b onClick=\"a()\"/><b onClick=\"b()\"/>"
  template := "<b onClick=\"a()\"/><b onClick=\"b()\"/>"
  scripts := []
  handlers := [buttonHandler id "a()" 3 16, buttonHandler id' "b()" 21 34]

theorem placedHandlers_twoButtons {id id' : String} (h : beginsWith signInMark id = false)
    (h' : beginsWith signInMark id' = false) :
    placedHandlers (twoButtons id id').handlers =
      [buttonHandler id' "b()" 21 34, buttonHandler id "a()" 3 16] := by
  have hlt : (buttonHandler id "a()" 3 16).first < (buttonHandler id' "b()" 21 34).first := by
    simp [Handler.first, buttonHandler]
  exact placedHandlers_pair h h' hlt

/-- Two buttons whose handlers have names of their own each run their own code. -/
theorem twoButtons_call_their_own :
    (twoButtons "__h0" "__h1").NamesApart ∧
    ∃ ps kept, (twoButtons "__h0" "__h1").template.toList = Patch.before ps ++ kept ∧
      "<b onClick=\"__melker.__h0(event)\"/><b onClick=\"__melker.__h1(event)\"/>".toList =
        Patch.after ps ++ kept ∧ ps ≠ [] ∧
      ∀ p ∈ ps, (twoButtons "__h0" "__h1").Answers p.handler := by
  have htext : (spliceHandlers (twoButtons "__h0" "__h1").template
      (twoButtons "__h0" "__h1").handlers).text =
        "<b onClick=\"__melker.__h0(event)\"/><b onClick=\"__melker.__h1(event)\"/>" := by
    rw [spliceHandlers, placedHandlers_twoButtons (by decide) (by decide)]
    decide +kernel
  obtain ⟨ps, kept, hbefore, hafter, -, -, hcalls⟩ :=
    App.spliceHandlers_calls (twoButtons "__h0" "__h1")
  rw [htext] at hafter
  refine ⟨by decide, ps, kept, hbefore, hafter, ?_, fun p hp => ?_⟩
  · rintro rfl
    have hsame := hbefore.trans hafter.symm
    exact absurd hsame (by decide +kernel)
  · obtain ⟨-, before, h, after, hsplit, -, hid, hown, hanswers⟩ := hcalls p hp
    have hnodup : ((twoButtons "__h0" "__h1").handlers.map (·.id)).Nodup := by decide
    rcases hown with rfl | hlater
    · exact hanswers
    · -- a later handler would have the name once more
      rw [hsplit, List.map_append, List.map_cons, List.nodup_append] at hnodup
      have hnot := (List.nodup_cons.mp hnodup.2.1).1
      exact absurd (hid ▸ List.mem_map_of_mem hlater) hnot

/-- Of two buttons whose handlers have one name, the second has its attribute replaced, but nothing
in the entry runs its code. -/
theorem twoButtons_share_name :
    (twoButtons "__h0" "__h0").NamesApart ∧
    (buttonHandler "__h0" "b()" 21 34).isSignIn = false ∧
    buttonHandler "__h0" "b()" 21 34 ∈ replaceable (twoButtons "__h0" "__h0").template.toList
      (byteLength (twoButtons "__h0" "__h0").template.toList)
      (placedHandlers (twoButtons "__h0" "__h0").handlers) ∧
    (spliceHandlers (twoButtons "__h0" "__h0").template (twoButtons "__h0" "__h0").handlers).text =
      "<b onClick=\"__melker.__h0(event)\"/><b onClick=\"__melker.__h0(event)\"/>" ∧
    (∀ l ∈ (twoButtons "__h0" "__h0").codeLines, l.text ≠ "b()") ∧
    ¬ (twoButtons "__h0" "__h0").Answers (buttonHandler "__h0" "b()" 21 34) := by
  have habsent : ∀ l ∈ (twoButtons "__h0" "__h0").codeLines, l.text ≠ "b()" := by decide +kernel
  refine ⟨by decide, by decide, ?_, ?_, habsent, ?_⟩
  · rw [placedHandlers_twoButtons (by decide) (by decide)]
    decide +kernel
  · rw [spliceHandlers, placedHandlers_twoButtons (by decide) (by decide)]
    decide +kernel
  · intro hanswers
    obtain ⟨front, body, back, hlines, -, hjoin⟩ := hanswers.function
    have hcode : join ['\n'] (body.map (·.text.toList)) = "b()".toList :=
      hjoin.trans (by decide +kernel)
    cases body with
    | nil => exact absurd hcode (by decide)
    | cons l rest =>
      cases rest with
      | nil =>
        have hmem : l ∈ (twoButtons "__h0" "__h0").codeLines := by
          rw [hlines]
          simp
        exact habsent l hmem (String.toList_inj.mp hcode)
      | cons m rest =>
        have hfeed : '\n' ∈ "b()".toList := by
          rw [← hcode]
          simp [join]
        exact absurd hfeed (by decide)

end AppBundle
