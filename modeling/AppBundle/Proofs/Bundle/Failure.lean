import AppBundle.Bundle.Failure
import AppBundle.Proofs.Entry.LineTable
import AppBundle.Proofs.Entry.Wiring
import AppBundle.Proofs.Locator
import AppBundle.Proofs.Text.Search

/-!
# Where a failure is located

The message of a failure is searched for a *place*: the file of generated code, a colon and a line.
The first one counts (`findPlace?_eq_some_iff`), and the failure is moved to the line of the app file
that this line comes from (`lineOf?_eq_some_iff`).

The search does not look at what stands in front of the file. Where that is nothing, or a character
that ends names of files, the message names the file itself (`App.locate_first`). Where the name goes
on to the front, the message names another file, and the failure is located by it all the same
(`siblingFailure_located`).
-/

namespace AppBundle

open AppBundle.Text

variable {cs text front rest back name : List Char} {p : GeneratedPlace}

/-! ## Places in a text -/

/-- The characters that a name with a number begins with. -/
def stemMark (word : String) : List Char := ("_" ++ word ++ "_").toList

/-- A name as generated files have it, without the ending. -/
inductive GeneratedStem : List Char → Prop
  | entry : GeneratedStem "_melker_entry".toList
  | numbered {word : String} {digits : List Char} (hword : word ∈ moduleWords)
      (hne : digits ≠ []) (hdigits : ∀ c ∈ digits, isDecimal c = true) :
      GeneratedStem (stemMark word ++ digits)

/-- A place stands in a text behind a front: a file with the name of generated files, a colon, and
all digits that follow. -/
structure GeneratedPlace.StandsBehind (p : GeneratedPlace) (front text : List Char) : Prop where
  file : ∃ stem, GeneratedStem stem ∧ p.file = String.ofList stem ++ ".ts"
  digits : p.line ≠ [] ∧ ∀ c ∈ p.line, isDecimal c = true
  text : ∃ back, text = front ++ (p.file.toList ++ ':' :: (p.line ++ back)) ∧
    ∀ c, back.head? = some c → isDecimal c = false

/-- The name with a given word in front of a text, and the text behind it. -/
def numberedName? (word : String) (cs : List Char) : Option (List Char × List Char) := do
  let rest ← after? (stemMark word) cs
  let digits := rest.takeWhile isDecimal
  if digits.isEmpty then none
  return (stemMark word ++ digits, rest.dropWhile isDecimal)

theorem generatedName?_eq (cs : List Char) :
    generatedName? cs = match after? "_melker_entry".toList cs with
      | some rest => some ("_melker_entry".toList, rest)
      | none => moduleWords.findSome? (numberedName? · cs) := rfl

theorem numberedName?_append (word : String) {digits : List Char} (hne : digits ≠ [])
    (hdigits : ∀ c ∈ digits, isDecimal c = true) (rest : List Char) :
    numberedName? word (stemMark word ++ (digits ++ '.' :: rest)) =
      some (stemMark word ++ digits, '.' :: rest) := by
  have hdot : isDecimal '.' = false := by decide
  have hsome : digits.isEmpty = false := List.isEmpty_eq_false_iff.mpr hne
  rw [numberedName?, after?_append, Option.bind_eq_bind, Option.bind_some]
  simp only [takeWhile_append_stop hdigits hdot, dropWhile_append_stop hdigits hdot, hsome]
  rfl

theorem numberedName?_eq_some (word : String) (h : numberedName? word cs = some (name, rest)) :
    ∃ digits, name = stemMark word ++ digits ∧ digits ≠ [] ∧ (∀ c ∈ digits, isDecimal c = true) ∧
      cs = name ++ rest := by
  obtain ⟨behind, hafter, h⟩ := Option.bind_eq_some_iff.mp h
  dsimp only at h
  split at h
  · exact absurd h (by simp)
  · next hne =>
    obtain ⟨rfl, rfl⟩ := Prod.mk.inj (Option.some.inj h)
    refine ⟨behind.takeWhile isDecimal, rfl, by simpa using hne,
      fun c hc => List.mem_takeWhile_imp hc, ?_⟩
    rw [List.append_assoc, List.takeWhile_append_dropWhile]
    exact after?_eq_some_iff.mp hafter

theorem mem_moduleWords {word : String} :
    word ∈ moduleWords ↔ word = "inline" ∨ word = "init" ∨ word = "ready" := by
  simp [moduleWords]

/-- No word is read where another stands. -/
theorem after?_stemMark {w word : String} (hw : w ∈ moduleWords) (hword : word ∈ moduleWords)
    (hne : w ≠ word) (x : List Char) : after? (stemMark w) (stemMark word ++ x) = none := by
  rw [mem_moduleWords] at hw hword
  rcases hw with rfl | rfl | rfl <;> rcases hword with rfl | rfl | rfl <;>
    first | rfl | exact absurd rfl hne

theorem after?_entry {word : String} (hword : word ∈ moduleWords) (x : List Char) :
    after? "_melker_entry".toList (stemMark word ++ x) = none := by
  rw [mem_moduleWords] at hword
  rcases hword with rfl | rfl | rfl <;> rfl

theorem generatedName?_of_stem (h : GeneratedStem name) (rest : List Char) :
    generatedName? (name ++ '.' :: rest) = some (name, '.' :: rest) := by
  rw [generatedName?_eq]
  cases h with
  | entry => rw [after?_append]
  | @numbered word digits hword hne hdigits =>
    have hname := numberedName?_append word hne hdigits rest
    rw [List.append_assoc, after?_entry hword]
    dsimp only
    obtain ⟨words, words', hwords⟩ := List.append_of_mem hword
    have hbefore : words.findSome? (numberedName? · (stemMark word ++ (digits ++ '.' :: rest))) =
        none := by
      refine List.findSome?_eq_none_iff.mpr fun w hw => ?_
      have hnodup : moduleWords.Nodup := by decide
      rw [hwords, List.nodup_append] at hnodup
      have hmem : w ∈ moduleWords := by rw [hwords]; exact List.mem_append_left _ hw
      rw [numberedName?, after?_stemMark hmem hword (hnodup.2.2 w hw word List.mem_cons_self)]
      rfl
    rw [hwords, List.findSome?_append, hbefore, Option.none_or, List.findSome?_cons, hname]

theorem stem_of_generatedName? (h : generatedName? cs = some (name, rest)) :
    GeneratedStem name ∧ cs = name ++ rest := by
  rw [generatedName?_eq] at h
  split at h
  · next behind hafter =>
    obtain ⟨rfl, rfl⟩ := Prod.mk.inj (Option.some.inj h)
    exact ⟨.entry, after?_eq_some_iff.mp hafter⟩
  · obtain ⟨word, hword, h⟩ := List.exists_of_findSome?_eq_some h
    obtain ⟨digits, rfl, hne, hdigits, htext⟩ := numberedName?_eq_some word h
    exact ⟨.numbered hword hne hdigits, htext⟩

/-- A place is read in front of a text if it stands there. -/
theorem placeAt?_eq_some_iff : placeAt? cs = some p ↔ p.StandsBehind [] cs := by
  constructor
  · intro h
    obtain ⟨⟨stem, rest⟩, hstem, h⟩ := Option.bind_eq_some_iff.mp h
    obtain ⟨behind, hafter, h⟩ := Option.bind_eq_some_iff.mp h
    obtain ⟨hstem, hcs⟩ := stem_of_generatedName? hstem
    have hrest := after?_eq_some_iff.mp hafter
    dsimp only at h hrest
    split at h
    · exact absurd h (by simp)
    · next hne =>
      obtain rfl := Option.some.inj h
      refine ⟨⟨stem, hstem, rfl⟩, ⟨by simpa using hne, fun c hc => List.mem_takeWhile_imp hc⟩,
        behind.dropWhile isDecimal, ?_, fun c hc => ?_⟩
      · simp [hcs, hrest, String.toList_append]
      · -- what stands behind the digits is no digit
        have hhead := List.head?_dropWhile_not isDecimal behind
        rw [hc] at hhead
        simpa using hhead
  · rintro ⟨⟨stem, hstem, hfile⟩, ⟨hne, hdigits⟩, back, rfl, hend⟩
    have htext : p.file.toList ++ ':' :: (p.line ++ back) =
        stem ++ '.' :: ("ts:".toList ++ (p.line ++ back)) := by
      simp [hfile, String.toList_append]
    -- the digits are read up to where they stop
    have hstop : (p.line ++ back).takeWhile isDecimal = p.line := by
      cases back with
      | nil => rw [List.append_nil, List.takeWhile_eq_self_iff.mpr hdigits]
      | cons c back => exact takeWhile_append_stop hdigits (hend c rfl) back
    have hsome : p.line.isEmpty = false := List.isEmpty_eq_false_iff.mpr hne
    have hafter : after? ".ts:".toList ('.' :: ("ts:".toList ++ (p.line ++ back))) =
        some (p.line ++ back) := rfl
    rw [List.nil_append, htext, placeAt?, generatedName?_of_stem hstem]
    simp only [Option.bind_eq_bind, Option.bind_some, hafter, hstop, hsome, ← hfile]
    rfl

namespace GeneratedPlace

theorem StandsBehind.of_cons {c d : Char} (h : p.StandsBehind (c :: front) (d :: rest)) :
    d = c ∧ p.StandsBehind front rest := by
  obtain ⟨back, htext, hend⟩ := h.text
  obtain ⟨rfl, hrest⟩ := List.cons.inj htext
  exact ⟨rfl, h.file, h.digits, back, hrest, hend⟩

theorem StandsBehind.cons (h : p.StandsBehind front rest) (c : Char) :
    p.StandsBehind (c :: front) (c :: rest) := by
  obtain ⟨back, htext, hend⟩ := h.text
  exact ⟨h.file, h.digits, back, congrArg (c :: ·) htext, hend⟩

theorem not_standsBehind_nil : ¬ p.StandsBehind front [] := by
  intro h
  obtain ⟨back, htext, -⟩ := h.text
  exact absurd htext.symm (by simp)

/-- The first place that stands in a text. -/
def IsFirst (p : GeneratedPlace) (front text : List Char) : Prop :=
  p.StandsBehind front text ∧
    ∀ (q : GeneratedPlace) front', q.StandsBehind front' text → front.length ≤ front'.length

end GeneratedPlace

/-- A search finds the first place. -/
theorem findPlace?_eq_some_iff : findPlace? text = some p ↔ ∃ front, p.IsFirst front text := by
  induction text with
  | nil =>
    refine ⟨fun h => absurd h (by simp [findPlace?]), ?_⟩
    rintro ⟨front, hstands, -⟩
    exact absurd hstands GeneratedPlace.not_standsBehind_nil
  | cons c rest ih =>
    rw [findPlace?, Option.orElse_eq_orElse, Option.orElse_eq_or]
    cases hat : placeAt? (c :: rest) with
    | some q =>
      have hq : q.StandsBehind [] (c :: rest) := placeAt?_eq_some_iff.mp hat
      rw [Option.some_or, Option.some.injEq]
      constructor
      · rintro rfl
        exact ⟨[], hq, fun _ _ _ => Nat.zero_le _⟩
      · rintro ⟨front, hstands, hfirst⟩
        have hnil : front = [] := List.length_eq_zero_iff.mp (Nat.le_zero.mp (hfirst q [] hq))
        rw [hnil, ← placeAt?_eq_some_iff, hat] at hstands
        exact Option.some.inj hstands
    | none =>
      -- no place stands in front of all, so each stands behind the first character
      have hbehind : ∀ (q : GeneratedPlace) front, q.StandsBehind front (c :: rest) →
          ∃ front', front = c :: front' ∧ q.StandsBehind front' rest := by
        intro q front hq
        cases front with
        | nil =>
          rw [← placeAt?_eq_some_iff, hat] at hq
          exact absurd hq (by simp)
        | cons d front =>
          obtain ⟨rfl, hrest⟩ := hq.of_cons
          exact ⟨front, rfl, hrest⟩
      rw [Option.none_or, ih]
      constructor
      · rintro ⟨front, hstands, hfirst⟩
        refine ⟨c :: front, hstands.cons c, fun q front' hq => ?_⟩
        obtain ⟨front', rfl, hrest⟩ := hbehind q front' hq
        exact Nat.succ_le_succ (hfirst q front' hrest)
      · rintro ⟨front, hstands, hfirst⟩
        obtain ⟨front, rfl, hrest⟩ := hbehind p front hstands
        exact ⟨front, hrest, fun q front' hq =>
          Nat.le_of_succ_le_succ (hfirst q (c :: front') (hq.cons c))⟩

/-- All places that stand in a text, each with its front. -/
def placesIn (text : List Char) : List (List Char × GeneratedPlace) :=
  (List.range text.length).filterMap fun k => (placeAt? (text.drop k)).map (text.take k, ·)

theorem mem_placesIn (h : p.StandsBehind front text) : (front, p) ∈ placesIn text := by
  obtain ⟨back, htext, hend⟩ := h.text
  have hplace : placeAt? (text.drop front.length) = some p := by
    rw [htext, List.drop_left]
    exact placeAt?_eq_some_iff.mpr ⟨h.file, h.digits, back, rfl, hend⟩
  refine List.mem_filterMap.mpr ⟨front.length, List.mem_range.mpr ?_, ?_⟩
  · simp only [htext, List.length_append, List.length_cons]
    omega
  · rw [hplace, Option.map_some, htext, List.take_left]

/-! ## The line that a place comes from -/

/-- The line of a place comes from a line of the app file: a line of the entry from the one that the
line table has for it, a line of a module from the one that is counted from the script. -/
inductive GeneratedPlace.ComesFrom (p : GeneratedPlace) (a : App) (line : Nat) : Prop
  | entry {n : Nat} {o : LineOrigin} (hn : word32? p.line = some n) (hfile : p.file = entryFile)
      (ho : a.generated.lineTable.get? n = some o) (hline : o.line = line)
  | module {n : Nat} {m : Module} {o : ModuleOrigin} (hn : word32? p.line = some n)
      (hm : (m, o) ∈ a.modules) (hfile : p.file = m.file) (hline : o.lineFor n = line)

namespace App

variable {a : App} {line : Nat}

/-- The origin of a module is found by its file. -/
theorem originOf?_eq_some_iff {file : String} {o : ModuleOrigin} :
    a.generated.originOf? file = some o ↔ ∃ m, (m, o) ∈ a.modules ∧ m.file = file := by
  have hfiles : ∀ q ∈ a.modules, q.1.file = q.2.file := by
    intro q hq
    obtain ⟨s, f, header, code, footer, rfl⟩ := a.exists_toModule_of_mem hq
    rfl
  constructor
  · intro h
    have hmem : o ∈ a.modules.map (·.2) := List.mem_of_find?_eq_some h
    obtain ⟨⟨m, o⟩, hm, rfl⟩ := List.mem_map.mp hmem
    have hfile := List.find?_some h
    exact ⟨m, hm, (hfiles _ hm).trans (by simpa using hfile)⟩
  · rintro ⟨m, hm, rfl⟩
    have hmem : o ∈ a.generated.origins := List.mem_map.mpr ⟨(m, o), hm, rfl⟩
    have hfile : o.file = m.file := (hfiles _ hm).symm
    have hsome : (a.generated.originOf? m.file).isSome = true :=
      List.find?_isSome.mpr ⟨o, hmem, by simpa using hfile⟩
    obtain ⟨o', ho'⟩ := Option.isSome_iff_exists.mp hsome
    have hfile' : o'.file = m.file := by simpa using List.find?_some ho'
    rw [ho', List.inj_on_of_nodup_map a.nodup_files (List.mem_of_find?_eq_some ho') hmem
      (hfile'.trans hfile.symm)]

theorem lineOf?_eq_some_iff : a.generated.lineOf? p = some line ↔ p.ComesFrom a line := by
  constructor
  · intro h
    obtain ⟨n, hn, h⟩ := Option.bind_eq_some_iff.mp h
    split at h
    · next hfile =>
      obtain ⟨o, ho, hline⟩ := Option.map_eq_some_iff.mp h
      exact .entry hn hfile ho hline
    · obtain ⟨o, ho, hline⟩ := Option.map_eq_some_iff.mp h
      obtain ⟨m, hm, hfile⟩ := originOf?_eq_some_iff.mp ho
      exact .module hn hm hfile.symm hline
  · intro h
    cases h with
    | entry hn hfile ho hline =>
      rw [Generated.lineOf?, hn, Option.bind_eq_bind, Option.bind_some, if_pos hfile, ho,
        Option.map_some, hline]
    | @module n m o hn hm hfile hline =>
      have ho := originOf?_eq_some_iff.mpr ⟨m, hm, hfile.symm⟩
      -- no module has the name of the entry, which is looked at first
      have hother : p.file ≠ entryFile := by
        intro hentry
        have hmem : o ∈ a.generated.origins := List.mem_map.mpr ⟨(m, o), hm, rfl⟩
        have hfind : o.file = p.file := by simpa using List.find?_some ho
        exact file_ne_entryFile hmem (hentry.symm.trans hfind.symm)
      rw [Generated.lineOf?, hn, Option.bind_eq_bind, Option.bind_some, if_neg hother, ho,
        Option.map_some, hline]

/-- Whether a file is generated for an app. -/
def HasFile (a : App) (file : String) : Prop :=
  file = entryFile ∨ ∃ m ∈ a.generated.modules, m.file = file

theorem hasFile_of_comesFrom (h : p.ComesFrom a line) : a.HasFile p.file := by
  cases h with
  | entry _ hfile => exact .inl hfile
  | @module _ m o _ hm hfile => exact .inr ⟨m, List.mem_map.mpr ⟨(m, o), hm, rfl⟩, hfile.symm⟩

end App

/-! ## Locating a failure -/

/-- Whether a name that stands behind a front is a whole name, by the characters that end names: the
front is empty or ends in one of them. -/
def IsWhole (ends : Char → Bool) (front : List Char) : Prop :=
  ∀ c, front.getLast? = some c → ends c = true

namespace App

variable (a : App)

/-- A failure without a line is located by the first place in its message, and keeps the message and
the hint. Where the file of that place is one of the app, it has to stand there by its whole name;
what ends a name is up to the file system, and if every character does this asks for nothing. Then no
other name leads to a line: a message with no whole name of a file of the app in front of a line is
not located. -/
theorem locate_first (ends : Char → Bool) (message : String) (hint : Option String)
    (hwhole : ∀ (p : GeneratedPlace) front, p.IsFirst front message.toList → a.HasFile p.file →
      IsWhole ends front) :
    ∃ line?, (AssemblyError.linkFailed message hint none).locate a.generated =
        .linkFailed message hint line? ∧
      (∀ line, line? = some line ↔ ∃ (p : GeneratedPlace) (front : List Char),
        p.IsFirst front message.toList ∧ IsWhole ends front ∧ p.ComesFrom a line) ∧
      ((∀ (p : GeneratedPlace) front, p.StandsBehind front message.toList → a.HasFile p.file →
        ¬ IsWhole ends front) → line? = none) := by
  have hlocated : ∀ line, (findPlace? message.toList).bind a.generated.lineOf? = some line ↔
      ∃ (p : GeneratedPlace) (front : List Char), p.IsFirst front message.toList ∧
        IsWhole ends front ∧ p.ComesFrom a line := by
    intro line
    rw [Option.bind_eq_some_iff]
    constructor
    · rintro ⟨p, hp, hline⟩
      obtain ⟨front, hfirst⟩ := findPlace?_eq_some_iff.mp hp
      have hfrom := lineOf?_eq_some_iff.mp hline
      exact ⟨p, front, hfirst, hwhole p front hfirst (hasFile_of_comesFrom hfrom), hfrom⟩
    · rintro ⟨p, front, hfirst, -, hfrom⟩
      exact ⟨p, findPlace?_eq_some_iff.mpr ⟨front, hfirst⟩, lineOf?_eq_some_iff.mpr hfrom⟩
  refine ⟨_, rfl, hlocated, fun hother => ?_⟩
  cases hline : (findPlace? message.toList).bind a.generated.lineOf? with
  | none => rfl
  | some line =>
    obtain ⟨p, front, hfirst, hends, hfrom⟩ := (hlocated line).mp hline
    exact absurd hends (hother p front hfirst.1 (hasFile_of_comesFrom hfrom))

end App

/-- A failure in the module of the first script of an app. -/
def moduleFailure : String := "Expected expression at file:///tmp/melker-x/_inline_0.ts:4:11"

theorem moduleFailure_located :
    (∀ (p : GeneratedPlace) front, p.IsFirst front moduleFailure.toList →
      counterApp.HasFile p.file → IsWhole isSlash front) ∧
    (AssemblyError.linkFailed moduleFailure none none).locate counterApp.generated =
      .linkFailed moduleFailure none (some 3) := by
  have hwhole : ∀ (p : GeneratedPlace) front, p.IsFirst front moduleFailure.toList →
      counterApp.HasFile p.file → IsWhole isSlash front := by
    intro p front hfirst _ c hc
    have hall : (placesIn moduleFailure.toList).all (fun q => q.1.getLast?.all isSlash) = true := by
      decide +kernel
    simpa [hc] using List.all_eq_true.mp hall _ (mem_placesIn hfirst.1)
  obtain ⟨line?, hlocate, hline, -⟩ := counterApp.locate_first isSlash moduleFailure none hwhole
  have hplace : findPlace? moduleFailure.toList = some ⟨"_inline_0.ts", ['4']⟩ := rfl
  obtain ⟨front, hfirst⟩ := findPlace?_eq_some_iff.mp hplace
  have hfrom : GeneratedPlace.ComesFrom ⟨"_inline_0.ts", ['4']⟩ counterApp 3 :=
    App.lineOf?_eq_some_iff.mp rfl
  have hsome : line? = some 3 := (hline 3).mpr
    ⟨_, front, hfirst, hwhole _ front hfirst (App.hasFile_of_comesFrom hfrom), hfrom⟩
  exact ⟨hwhole, hlocate.trans (congrArg _ hsome)⟩

/-- A failure in a file that stands beside the app. Its name goes on to the front of a name of
generated files. -/
def siblingFailure : String := "Expected ';' at file:///apps/my_inline_0.ts:4:3"

/-- The message names no generated file, and a frame in the file that it names is in none. It is
located by the module of the script all the same. -/
theorem siblingFailure_located :
    (∀ (p : GeneratedPlace) front, p.StandsBehind front siblingFailure.toList →
      front.getLast? = some 'y') ∧
    namesFile "file:///apps/my_inline_0.ts" "_inline_0.ts" = false ∧
    (AssemblyError.linkFailed siblingFailure none none).locate counterApp.generated =
      .linkFailed siblingFailure none (some 3) := by
  refine ⟨fun p front hstands => ?_, by decide +kernel, ?_⟩
  · have hall : (placesIn siblingFailure.toList).all (fun q => q.1.getLast? = some 'y') = true := by
      decide +kernel
    simpa using List.all_eq_true.mp hall _ (mem_placesIn hstands)
  · rfl

end AppBundle
