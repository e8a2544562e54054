import AppBundle.Proofs.Entry.Text
import AppBundle.Proofs.Text.Search

/-!
# The texts of modules

The text of a module falls apart into the lines of its header, each on one line whatever the app file
is called, and the code that continues the last of them.
-/

namespace AppBundle

/-- Code with a line feed at its end. -/
def closedCode (code : String) : String :=
  if Text.endsIn ['\n'] code.toList then code else code ++ "\n"

/-- The line that closes a module. -/
def footerText : Option String → String
  | some line => line ++ "\n"
  | none => ""

/-- Behind another character, what follows decides whether a text ends in a character. -/
theorem endsIn_append {c x : Char} (hx : x ≠ c) (cs ds : List Char) :
    Text.endsIn [c] (cs ++ [x] ++ ds) = Text.endsIn [c] ds := by
  rw [Bool.eq_iff_iff, Text.endsIn, Text.endsIn, List.isSuffixOf_iff_suffix,
    List.isSuffixOf_iff_suffix]
  rcases List.eq_nil_or_concat ds with rfl | ⟨front, d, rfl⟩
  · constructor
    · rintro ⟨rest, h⟩
      rw [List.append_nil] at h
      exact absurd (List.singleton_inj.mp (List.append_inj' h rfl).2).symm hx
    · exact fun h => absurd (List.suffix_nil.mp h) (by simp)
  · rw [List.concat_eq_append]
    constructor
    · rintro ⟨rest, h⟩
      rw [← List.append_assoc] at h
      rw [List.singleton_inj.mp (List.append_inj' h rfl).2]
      exact List.suffix_append _ _
    · exact fun h => h.trans (List.suffix_append _ _)

/-- The text of a module: the lines of the header but the last, which the code continues. -/
theorem toList_moduleText {last : String} (hlast : OneLine last) (hne : last ≠ "")
    (front : List String) (code : String) (footer : Option String) :
    (moduleText (front ++ [last]) code footer).toList =
      Text.unlines (front.map String.toList)
        ++ (last ++ closedCode code ++ footerText footer).toList := by
  -- the last line of the header ends in no line feed, so the code decides whether one is added
  have hends : Text.endsIn ['\n'] (String.intercalate "\n" (front ++ [last]) ++ code).toList =
      Text.endsIn ['\n'] code.toList := by
    rcases List.eq_nil_or_concat last.toList with hnil | ⟨cs, x, hx⟩
    · exact absurd (String.toList_eq_nil_iff.mp hnil) hne
    · rw [List.concat_eq_append] at hx
      have hfeed : x ≠ '\n' := by
        rintro rfl
        exact hlast (hx ▸ List.mem_append_right _ List.mem_cons_self)
      rw [String.toList_append, Text.toList_intercalate_feed, hx, ← List.append_assoc,
        endsIn_append hfeed]
  have htext := Text.toList_intercalate_feed front last
  unfold moduleText closedCode
  simp only [hends]
  split <;> split <;> simp [footerText, htext]

/-- The lines of a module: those of the header, with the code behind the last. -/
theorem pieces_moduleText {last : String} (hlast : OneLine last) (hne : last ≠ "")
    {front : List String} (hfront : ∀ l ∈ front, OneLine l) (code : String)
    (footer : Option String) :
    Text.pieces (moduleText (front ++ [last]) code footer).toList =
      front.map String.toList
        ++ Text.pieces (last ++ closedCode code ++ footerText footer).toList := by
  rw [toList_moduleText hlast hne]
  refine Text.pieces_unlines_append (fun l hl => ?_) _
  obtain ⟨s, hs, rfl⟩ := List.mem_map.mp hl
  exact hfront s hs

namespace Script

variable (s : Script) (sourceId : String)

/-- The comment that a module begins with. -/
def comment (file : String) : String :=
  "// " ++ file ++ ": " ++ s.kind.word ++ " script from " ++ onOneLine sourceId ++ ":"
    ++ decimal s.span.start.line

theorem header_eq (file : String) :
    s.header sourceId file = [s.comment sourceId file, contextLine, argumentsLine] := rfl

theorem oneLine_comment {file : String} (hfile : OneLine file) :
    OneLine (s.comment sourceId file) := by
  simp only [comment, OneLine.append_iff]
  exact ⟨⟨⟨⟨⟨⟨⟨.ofChars (by decide), hfile⟩, .ofChars (by decide)⟩, s.kind.oneLine_word⟩,
    .ofChars (by decide)⟩, oneLine_onOneLine _⟩, .ofChars (by decide)⟩, .decimal _⟩

/-- The line that opens the function of a script. -/
def exportLine (i : Nat) : String :=
  "export async function " ++ momentName s.kind i ++ "() \x7b"

theorem oneLine_exportLine (i : Nat) : OneLine (s.exportLine i) := by
  unfold exportLine
  rw [OneLine.append_iff, OneLine.append_iff]
  exact ⟨⟨.ofChars (by decide), oneLine_momentName _ _⟩, .ofChars (by decide)⟩

/-- The import of the module that holds a script, if it is kept outside. -/
def outsideImport : List String :=
  match s.reference with
  | some reference => [importAll "__external" (absoluteReference sourceId reference)]
  | none => []

/-- What the function of a script does: the code of the script, or the call of what the module that
holds it exports. -/
def momentBody : String :=
  match s.reference with
  | some _ => callOutside
  | none => s.moduleCode sourceId

theorem oneLine_contextLine : OneLine contextLine := .ofChars (by decide)

theorem oneLine_argumentsLine : OneLine argumentsLine := .ofChars (by decide)

theorem content_inlineModule (i : Nat) :
    (s.inlineModule sourceId i).1.content =
      moduleText ([s.comment sourceId (inlineFile i), contextLine] ++ [argumentsLine])
        (s.moduleCode sourceId) none := by
  simp only [inlineModule, toModule, header_eq, List.cons_append, List.nil_append]

theorem pieces_inlineModule (i : Nat) :
    Text.pieces (s.inlineModule sourceId i).1.content.toList =
      [s.comment sourceId (inlineFile i), contextLine].map String.toList
        ++ Text.pieces (argumentsLine ++ closedCode (s.moduleCode sourceId)).toList := by
  have hfront : ∀ l ∈ [s.comment sourceId (inlineFile i), contextLine], OneLine l := by
    simp only [List.forall_mem_cons]
    exact ⟨s.oneLine_comment sourceId (oneLine_inlineFile i), oneLine_contextLine, by simp⟩
  have hne : argumentsLine ≠ "" := by decide
  rw [content_inlineModule, pieces_moduleText oneLine_argumentsLine hne hfront, footerText,
    String.append_empty]

/-- The line that gives the script the shared exports; its code continues it. -/
def exportsLine : String := "const $app = $melker.exports;"

theorem oneLine_exportsLine : OneLine exportsLine := .ofChars (by decide)

theorem owner_momentModule (i : Nat) : (s.momentModule sourceId i).1.owner = s.id := by
  unfold momentModule
  split <;> rfl

theorem content_momentModule (i : Nat) :
    (s.momentModule sourceId i).1.content =
      moduleText (([s.comment sourceId (momentFile s.kind i), contextLine, argumentsLine]
        ++ s.outsideImport sourceId ++ [s.exportLine i]) ++ [exportsLine])
        (s.momentBody sourceId) (some "\x7d") := by
  unfold momentModule outsideImport momentBody exportLine exportsLine
  cases s.reference with
  | none => simp only [toModule, header_eq, List.cons_append, List.nil_append]
  | some reference => simp only [toModule, header_eq, List.cons_append, List.nil_append]

theorem pieces_momentModule (i : Nat) :
    Text.pieces (s.momentModule sourceId i).1.content.toList =
      ([s.comment sourceId (momentFile s.kind i), contextLine, argumentsLine]
          ++ s.outsideImport sourceId ++ [s.exportLine i]).map String.toList
        ++ Text.pieces (exportsLine ++ closedCode (s.momentBody sourceId) ++ "\x7d\n").toList := by
  have houtside : ∀ l ∈ s.outsideImport sourceId, OneLine l := by
    unfold outsideImport
    split
    · simp only [List.forall_mem_cons]
      exact ⟨oneLine_importAll (.ofChars (by decide)) _, by simp⟩
    · simp
  have hfront : ∀ l ∈ [s.comment sourceId (momentFile s.kind i), contextLine, argumentsLine]
      ++ s.outsideImport sourceId ++ [s.exportLine i], OneLine l := by
    simp only [List.forall_mem_append, List.forall_mem_cons]
    exact ⟨⟨⟨s.oneLine_comment sourceId (oneLine_momentFile _ _), oneLine_contextLine,
      oneLine_argumentsLine, by simp⟩, houtside⟩, s.oneLine_exportLine i, by simp⟩
  have hne : exportsLine ≠ "" := by decide
  have hfooter : footerText (some "\x7d") = "\x7d\n" := by decide
  rw [content_momentModule, pieces_moduleText oneLine_exportsLine hne hfront, hfooter]

end Script

end AppBundle
