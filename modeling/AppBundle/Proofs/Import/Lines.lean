import AppBundle.Proofs.Import.Feeds
import AppBundle.Proofs.Text.Lines

/-!
# Scanning code that is put together

Generated code is put together from lines, and authored code stands between them. Behind a barred
line scanning begins anew, so in lines the specifiers of each line are found
(`found_unlines_append`); authored code that stands in a block does not mix with what is behind the
block (`found_block`).
-/

namespace AppBundle

namespace Import

open AppBundle.Text

variable {x y : List Char}

/-- The specifiers that scanning finds. -/
def found (code : List Char) : List (List Char) := specifiers (chunks code)

/-- The specifiers that scanning a string finds. -/
def specifiersIn (code : String) : List String := (scan code).map (·.specifier)

theorem specifiersIn_eq (code : String) :
    specifiersIn code = (found code.toList).map String.ofList :=
  map_specifier_scan code

/-! ## Lines -/

theorem found_unquoted (hx : Unquoted x) : found x = [] := by
  rw [found, chunks_eq, chunksBehind_unquoted none hx, specifiers_map_plain]

theorem found_line (hx : Barred x) (y : List Char) :
    found (x ++ '\n' :: y) = found x ++ found y := by
  rw [found, chunks_line hx, specifiers_append, specifiers_plain_cons]
  rfl

theorem found_unlines_append {ls : List (List Char)} (h : ∀ l ∈ ls, Barred l) (y : List Char) :
    found (unlines ls ++ y) = ls.flatMap found ++ found y := by
  induction ls with
  | nil => rfl
  | cons l ls ih =>
    obtain ⟨hl, hls⟩ := List.forall_mem_cons.mp h
    rw [unlines, List.append_assoc, List.cons_append, found_line hl, ih hls, List.flatMap_cons,
      List.append_assoc]

/-- Whether there is a stop in the harmless characters at the end of a text. -/
def bars (x : List Char) : Bool :=
  (x.reverse.takeWhile isHarmless).any isStop

/-- A text that ends in another with a stop at its end is barred. -/
theorem Barred.behind (x : List Char) (h : bars y = true) : Barred (x ++ y) := by
  obtain ⟨c, hmem, hc⟩ := List.any_eq_true.mp h
  obtain ⟨back, front, hsplit⟩ := List.append_of_mem hmem
  have hy : y = (y.reverse.dropWhile isHarmless).reverse ++ front.reverse ++ c :: back.reverse := by
    have hreverse : y.reverse = back ++ c :: front ++ y.reverse.dropWhile isHarmless := by
      rw [← hsplit, List.takeWhile_append_dropWhile]
    simpa using congrArg List.reverse hreverse
  rw [hy, ← List.append_assoc, ← List.append_assoc]
  refine .stop _ hc fun d hd => ?_
  have hd : d ∈ y.reverse.takeWhile isHarmless := by
    rw [hsplit]
    exact List.mem_append_left _ (List.mem_reverse.mp hd)
  exact List.mem_takeWhile_imp hd

/-- The form for literals. -/
theorem Barred.ofChars (h : bars x = true) : Barred (String.ofList x).toList := by
  rw [String.toList_ofList]
  exact .behind [] h

theorem Barred.ofHarmless (h : x.all isHarmless = true) : Barred (String.ofList x).toList := by
  rw [String.toList_ofList]
  exact .harmless (List.all_eq_true.mp h)

/-- A line that ends in a literal. -/
theorem Barred.append (s : String) (h : bars y = true) : Barred (s ++ String.ofList y).toList := by
  rw [String.toList_append, String.toList_ofList]
  exact .behind _ h

theorem unquoted_ofChars (h : x.any isQuote = false) : Unquoted (String.ofList x).toList := by
  rw [String.toList_ofList]
  exact .ofChars h

theorem unquoted_append_iff {s t : String} :
    Unquoted (s ++ t).toList ↔ Unquoted s.toList ∧ Unquoted t.toList := by
  simp [Unquoted, or_imp, forall_and]

theorem found_ofChars (h : found x = []) : found (String.ofList x).toList = [] := by
  rwa [String.toList_ofList]

/-! ## Authored code -/

/-- Authored code that a statement stands in front of is scanned alone. -/
theorem found_statement (hx : Unquoted x) (y : List Char) : found (x ++ ';' :: y) = found y := by
  rw [found, chunks_statement hx, specifiers_append, specifiers_map_plain, List.nil_append]
  rfl

/-- So is what stands in front of text that ends no import. -/
theorem found_ended {t : List Char} (ht : Unquoted t) (hparen : ')' ∉ t) (x : List Char) :
    found (x ++ t) = found x := by
  rw [found, chunks_ended ht hparen, specifiers_append, specifiers_map_plain, List.append_nil]
  rfl

theorem found_unifyFeeds (cs : List Char) : found (unifyFeeds cs) = found cs :=
  specifiers_chunks_unifyFeeds cs

theorem found_exchanged {r : List Char → List Char} {cs : List Char} (hr : AllKeep r (chunks cs)) :
    found (exchanged r (chunks cs)) = (found cs).map r := by
  rw [found, chunks_exchanged hr, specifiers_exchange]
  rfl

/-- A text that comes to a stop before any quote. -/
def ComesToStop (y : List Char) : Prop :=
  ∃ u c z, y = u ++ c :: z ∧ Unquoted u ∧ ')' ∉ u ∧ isStop c = true ∧ c ≠ ')'

/-- Authored code in a block and what is behind the block are scanned each alone. -/
theorem found_block (hy : ComesToStop y) (x : List Char) :
    found (x ++ '\n' :: '\x7d' :: '\n' :: y) = found x ++ found y := by
  obtain ⟨u, c, z, rfl, hu, hparen, hc, hne⟩ := hy
  have hunquoted : Unquoted ('\x7d' :: '\n' :: u) :=
    List.forall_mem_cons.mpr ⟨by decide, List.forall_mem_cons.mpr ⟨by decide, hu⟩⟩
  have hparen : ')' ∉ '\x7d' :: '\n' :: u := by simp [hparen]
  have hparts : Parts x ('\n' :: '\x7d' :: '\n' :: (u ++ c :: z)) :=
    parts_of_stop hunquoted hparen hc hne x z
  have hclose : Barred ['\x7d'] := .harmless (List.all_eq_true.mp (by decide))
  have hrest : found (['\x7d'] ++ '\n' :: (u ++ c :: z)) = found (u ++ c :: z) := by
    rw [found_line hclose, found_unquoted (.ofChars (by decide)), List.nil_append]
  rw [found, chunks_eq, chunksBehind_append none hparts, chunksBehind_feed,
    specifiers_append, specifiers_plain_cons]
  exact congrArg _ hrest

/-! ## Imports -/

/-- The import of a line that binds names is found, and no other. -/
theorem found_importLine {binding s : List Char} (hbinding : ∀ c ∈ binding, isBinding c = true)
    (hs : Content s) :
    found (importWord ++ ' ' :: binding ++ ' ' :: fromWord ++ [' ', '"'] ++ s ++ ['"', ';']) =
      [s] := by
  have hfront : WordFront (importWord ++ (' ' :: binding ++ ' ' :: fromWord ++ [' '])) := by
    refine .mk (.inl rfl) (fun c hc => ?_) (isBindingText_iff.mpr (.inr
      ⟨' ' :: binding ++ [' '], [' '], by simp [fromWord], by simp,
        List.all_eq_true.mp (by decide)⟩))
    simp only [List.mem_append, List.mem_cons, List.not_mem_nil, or_false] at hc
    rcases hc with ((rfl | hc) | rfl | hc) | rfl
    · decide
    · exact hbinding c hc
    · decide
    · exact List.all_eq_true.mp (by decide : fromWord.all isBinding = true) c hc
    · decide
  have hshape : Shape none (.around (importWord ++ (' ' :: binding ++ ' ' :: fromWord ++ [' '])) '"'
      s ['"'] [';']) := .clause _ (.atStart (.inl rfl) hfront) (by decide) hs (by decide)
  have hat := importAt?_eq_some_iff.mpr ⟨rfl, hshape⟩
  have htext : importWord ++ ' ' :: binding ++ ' ' :: fromWord ++ [' ', '"'] ++ s ++ ['"', ';'] =
      (Found.around (importWord ++ (' ' :: binding ++ ' ' :: fromWord ++ [' '])) '"' s ['"']
        [';']).text ++ [';'] := by
    simp [Found.text, Found.around]
  have hlast : chunksBehind (some '"') [';'] = [.plain ';'] := by decide
  rw [found, htext, chunks_eq]
  refine (congrArg specifiers (chunksBehind_of_importAt? hat)).trans ?_
  simp only [Found.around, specifiers_append, specifiers_map_plain, specifiers_specifier_cons,
    List.getLast?_singleton, hlast, specifiers_plain_cons]
  rfl

end Import

end AppBundle
