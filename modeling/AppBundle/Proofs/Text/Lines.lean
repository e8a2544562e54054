import AppBundle.Proofs.Code.Literal
import AppBundle.Text.Lines
import Mathlib.Tactic.Common
import Mathlib.Tactic.SplitIfs

/-!
# Lines put together and taken apart

A text of lines, each ended by a line feed, has the lines as its pieces, provided that no line holds
a line feed itself. `OneLine` is that proviso for strings; the ways in which generated lines are
built keep it.
-/

namespace AppBundle

namespace Text

/-- A separator parts what stands in front of it from what stands behind. -/
theorem split_append_cons (sep : Char) (front back : List Char) :
    split sep (front ++ sep :: back) = split sep front ++ split sep back := by
  induction front with
  | nil => simp [split]
  | cons c front ih =>
    obtain ⟨p, ps, hs⟩ := List.exists_cons_of_ne_nil (split_ne_nil sep front)
    rw [List.cons_append, split, ih, split, hs]
    by_cases hc : c = sep
    · rw [if_pos hc, if_pos hc]
      rfl
    · rw [if_neg hc, if_neg hc]
      rfl

theorem split_of_notMem {sep : Char} {l : List Char} (h : sep ∉ l) : split sep l = [l] := by
  induction l with
  | nil => rfl
  | cons c l ih =>
    obtain ⟨hc, hl⟩ := not_or.mp (mt List.mem_cons.mpr h)
    rw [split, if_neg (fun e => hc e.symm), ih hl]

/-- What stands in front of a separator is the first part. -/
theorem split_append {sep : Char} {l : List Char} (h : sep ∉ l) (rest : List Char) :
    split sep (l ++ sep :: rest) = l :: split sep rest := by
  rw [split_append_cons, split_of_notMem h]
  rfl

/-- Parts that were put together are taken apart again. -/
theorem split_join {sep : Char} {ps : List (List Char)} (h : ∀ p ∈ ps, sep ∉ p) (hne : ps ≠ []) :
    split sep (join [sep] ps) = ps := by
  induction ps with
  | nil => exact absurd rfl hne
  | cons p ps ih =>
    have hp : sep ∉ p := h p List.mem_cons_self
    have hps : ∀ q ∈ ps, sep ∉ q := fun q hq => h q (List.mem_cons_of_mem p hq)
    cases ps with
    | nil => exact split_of_notMem hp
    | cons q ps =>
      have hrest := ih hps (List.cons_ne_nil q ps)
      rw [join, List.append_assoc, List.singleton_append, split_append hp, hrest]

/-- What was taken apart is put together again. -/
theorem join_split (sep : Char) (cs : List Char) : join [sep] (split sep cs) = cs := by
  induction cs with
  | nil => rfl
  | cons c cs ih =>
    by_cases hc : c = sep
    · obtain ⟨p, ps, hs⟩ := List.exists_cons_of_ne_nil (split_ne_nil sep cs)
      rw [hs] at ih
      rw [hc, split_cons_self, hs, join, ih]
      rfl
    · obtain ⟨p, ps, hs, hcons⟩ := exists_split_cons hc cs
      rw [hs] at ih
      rw [hcons]
      cases ps with
      | nil => exact congrArg (c :: ·) ih
      | cons q ps => exact congrArg (c :: ·) ih

/-- No part holds the separator. -/
theorem sep_notMem_of_mem_split {sep : Char} {cs l : List Char} (h : l ∈ split sep cs) :
    sep ∉ l := by
  induction cs generalizing l with
  | nil =>
    obtain rfl := List.mem_singleton.mp h
    exact List.not_mem_nil
  | cons c cs ih =>
    by_cases hc : c = sep
    · rw [hc, split_cons_self] at h
      rcases List.mem_cons.mp h with rfl | h
      · exact List.not_mem_nil
      · exact ih h
    · obtain ⟨p, ps, hs, hcons⟩ := exists_split_cons hc cs
      rw [hs] at ih
      rw [hcons] at h
      rcases List.mem_cons.mp h with rfl | h
      · exact List.not_mem_cons_of_ne_of_not_mem (Ne.symm hc) (ih List.mem_cons_self)
      · exact ih (List.mem_cons_of_mem p h)

theorem mem_of_mem_split {sep c : Char} {cs p : List Char} (hp : p ∈ split sep cs) (hc : c ∈ p) :
    c ∈ cs := by
  induction cs generalizing p with
  | nil =>
    obtain rfl := List.mem_singleton.mp hp
    exact hc
  | cons x cs ih =>
    by_cases hx : x = sep
    · rw [hx, split_cons_self] at hp
      rcases List.mem_cons.mp hp with rfl | hp
      · exact absurd hc List.not_mem_nil
      · exact List.mem_cons_of_mem x (ih hp hc)
    · obtain ⟨q, qs, hs, hcons⟩ := exists_split_cons hx cs
      rw [hs] at ih
      rw [hcons] at hp
      rcases List.mem_cons.mp hp with rfl | hp
      · rcases List.mem_cons.mp hc with rfl | hc
        · exact List.mem_cons_self
        · exact List.mem_cons_of_mem x (ih List.mem_cons_self hc)
      · exact List.mem_cons_of_mem x (ih (List.mem_cons_of_mem q hp) hc)

/-- What is no separator stands in a part. -/
theorem exists_mem_split {sep : Char} {cs : List Char} {c : Char} (h : c ∈ cs) (hc : c ≠ sep) :
    ∃ p ∈ split sep cs, c ∈ p := by
  induction cs with
  | nil => exact absurd h List.not_mem_nil
  | cons x cs ih =>
    by_cases hx : x = sep
    · have hmem : c ∈ cs := (List.mem_cons.mp h).resolve_left fun e => hc (e.trans hx)
      obtain ⟨p, hp, hcp⟩ := ih hmem
      rw [hx, split_cons_self]
      exact ⟨p, List.mem_cons_of_mem [] hp, hcp⟩
    · obtain ⟨q, qs, hs, hcons⟩ := exists_split_cons hx cs
      rw [hcons]
      rcases List.mem_cons.mp h with rfl | h
      · exact ⟨c :: q, List.mem_cons_self, List.mem_cons_self⟩
      · obtain ⟨p, hp, hcp⟩ := ih h
        rw [hs] at hp
        rcases List.mem_cons.mp hp with rfl | hp
        · exact ⟨x :: p, List.mem_cons_self, List.mem_cons_of_mem x hcp⟩
        · exact ⟨p, List.mem_cons_of_mem (x :: q) hp, hcp⟩

theorem join_eq_intercalate (sep : List Char) (ps : List (List Char)) :
    join sep ps = sep.intercalate ps := by
  induction ps with
  | nil => rfl
  | cons p ps ih =>
    cases ps with
    | nil => exact List.intercalate_singleton.symm
    | cons q ps => rw [join, ih, List.intercalate_cons_cons]

/-- The pieces of a string make it up again. -/
theorem intercalate_pieces (s : String) :
    String.intercalate "\n" ((pieces s.toList).map String.ofList) = s := by
  rw [← String.toList_inj, String.toList_intercalate, List.map_map]
  have hmap : (pieces s.toList).map (String.toList ∘ String.ofList) = pieces s.toList := by simp
  have hfeed : "\n".toList = ['\n'] := by decide
  rw [hmap, hfeed, ← join_eq_intercalate]
  exact join_split '\n' s.toList

/-- A line in front of a line feed is the first piece. -/
theorem pieces_append_feed {l : List Char} (h : '\n' ∉ l) (rest : List Char) :
    pieces (l ++ '\n' :: rest) = l :: pieces rest :=
  split_append h rest

/-- Lines in front of a text are taken off it again. -/
theorem pieces_unlines_append {ls : List (List Char)} (h : ∀ l ∈ ls, '\n' ∉ l)
    (rest : List Char) : pieces (unlines ls ++ rest) = ls ++ pieces rest := by
  induction ls with
  | nil => rfl
  | cons l ls ih =>
    rw [unlines, List.append_assoc, List.cons_append, pieces_append_feed (h l (by simp)),
      ih fun m hm => h m (by simp [hm])]
    rfl

/-- Lines that were put together are taken apart again; an empty piece follows the last. -/
theorem pieces_unlines {ls : List (List Char)} (h : ∀ l ∈ ls, '\n' ∉ l) :
    pieces (unlines ls) = ls ++ [[]] := by
  have hpieces := pieces_unlines_append h []
  rwa [List.append_nil] at hpieces

/-- Texts that were put together as lines have their own pieces; an empty piece follows the last. -/
theorem pieces_unlines_eq_flatMap (ls : List (List Char)) :
    pieces (unlines ls) = ls.flatMap pieces ++ [[]] := by
  induction ls with
  | nil => rfl
  | cons l ls ih =>
    rw [pieces] at ih
    rw [unlines, pieces, split_append_cons, ih, List.flatMap_cons, List.append_assoc]
    rfl

/-- The pieces of a text put together as lines are the text and a line feed. -/
theorem unlines_pieces (cs : List Char) : unlines (pieces cs) = cs ++ ['\n'] := by
  induction cs with
  | nil => rfl
  | cons c cs ih =>
    rw [pieces] at ih ⊢
    by_cases hc : c = '\n'
    · rw [hc, split_cons_self, unlines, ih, List.nil_append, List.cons_append]
    · obtain ⟨p, ps, hs, hcons⟩ := exists_split_cons hc cs
      rw [hs] at ih
      rw [hcons]
      exact congrArg (c :: ·) ih

theorem unlines_append (ks ls : List (List Char)) :
    unlines (ks ++ ls) = unlines ks ++ unlines ls := by
  induction ks with
  | nil => rfl
  | cons k ks ih => simp [unlines, ih]

/-- Strings with line feeds between them are lines with the last string behind them. -/
theorem toList_intercalate_feed (ss : List String) (last : String) :
    (String.intercalate "\n" (ss ++ [last])).toList =
      unlines (ss.map String.toList) ++ last.toList := by
  rw [String.toList_intercalate]
  induction ss with
  | nil => simp [unlines]
  | cons s ss ih =>
    obtain ⟨t, ts, hts⟩ := List.exists_cons_of_ne_nil (List.append_ne_nil_of_right_ne_nil ss
      (List.cons_ne_nil last []))
    rw [List.cons_append, List.map_cons, hts, List.map_cons, List.intercalate_cons_cons,
      ← List.map_cons, ← hts, ih]
    simp [unlines]

/-- Strings on lines of their own below a text follow its pieces. -/
theorem pieces_intercalate {ss : List String} (h : ∀ s ∈ ss, '\n' ∉ s.toList) (first : String) :
    pieces (String.intercalate "\n" (first :: ss)).toList =
      pieces first.toList ++ ss.map String.toList := by
  induction ss generalizing first with
  | nil => simp
  | cons s ss ih =>
    have hs := h s List.mem_cons_self
    have hrest := ih (fun t ht => h t (List.mem_cons_of_mem s ht)) s
    have hfeed : "\n".toList = ['\n'] := by decide
    rw [String.intercalate_cons_cons, String.toList_append, String.toList_append, hfeed,
      List.append_assoc, List.singleton_append, pieces, split_append_cons, ← pieces, ← pieces,
      hrest, pieces, pieces, split_of_notMem hs]
    rfl

/-- Pieces in front of others are ended by a line feed, so each of them is a line. -/
theorem linesOfPieces_append (ps : List (List Char)) {qs : List (List Char)} (hne : qs ≠ []) :
    linesOfPieces (ps ++ qs) = ps.map dropReturn ++ linesOfPieces qs := by
  induction ps with
  | nil => rfl
  | cons p ps ih =>
    obtain ⟨r, rs, hrs⟩ := List.exists_cons_of_ne_nil (List.append_ne_nil_of_right_ne_nil ps hne)
    rw [hrs] at ih
    rw [List.cons_append, hrs, linesOfPieces, ih]
    rfl

/-- Where no piece ends in a carriage return, the pieces are the lines, but for an empty one at the
end. -/
theorem linesOfPieces_concat {ps : List (List Char)} (h : ∀ p ∈ ps, p.getLast? ≠ some '\r')
    (last : List Char) :
    linesOfPieces (ps ++ [last]) = ps ++ if last.isEmpty then [] else [last] := by
  have hkept : ∀ p ∈ ps, dropReturn p = p := by
    intro p hp
    rw [dropReturn]
    split
    · next hreturn => exact absurd hreturn (h p hp)
    · rfl
  rw [linesOfPieces_append ps (List.cons_ne_nil last []), List.map_congr_left hkept, List.map_id']
  rfl

/-- What stands on lines of its own in front of a text gives the same lines whatever the text is. -/
theorem exists_lines_append {front : List Char} (h : ∀ c, front.getLast? = some c → c = '\n') :
    ∃ ls, ∀ back, lines (front ++ back) = ls ++ lines back := by
  rcases List.eq_nil_or_concat front with rfl | ⟨init, c, rfl⟩
  · exact ⟨[], fun back => rfl⟩
  · obtain rfl := h c (by simp)
    refine ⟨(pieces init).map dropReturn, fun back => ?_⟩
    rw [lines, pieces, List.concat_eq_append, List.append_assoc, List.singleton_append,
      split_append_cons]
    exact linesOfPieces_append _ (split_ne_nil '\n' back)

/-- A line in front of a text is the first of its lines. -/
theorem lines_append_feed {line : List Char} (h : '\n' ∉ line) (back : List Char) :
    lines (line ++ '\n' :: back) = dropReturn line :: lines back := by
  rw [lines, pieces_append_feed h]
  exact linesOfPieces_append [line] (split_ne_nil '\n' back)

/-- A text without a line feed is a line if it is not empty. -/
theorem lines_of_notMem {line : List Char} (h : '\n' ∉ line) (hne : line ≠ []) :
    lines line = [line] := by
  rw [lines, pieces, split_of_notMem h, linesOfPieces, if_neg]
  simpa using hne

/-- No piece holds a line feed. -/
theorem feed_notMem_of_mem_pieces {cs l : List Char} (h : l ∈ pieces cs) : '\n' ∉ l :=
  sep_notMem_of_mem_split h

end Text

/-- Strings without a character have it neither when they are joined by one without it. -/
theorem notMem_intercalate {c : Char} {sep : String} {ss : List String} (hsep : c ∉ sep.toList)
    (h : ∀ s ∈ ss, c ∉ s.toList) : c ∉ (String.intercalate sep ss).toList := by
  rw [String.toList_intercalate]
  induction ss with
  | nil => simp
  | cons s ss ih =>
    have hs : c ∉ s.toList := h s (by simp)
    have hss := ih fun t ht => h t (by simp [ht])
    cases ss with
    | nil => simpa using hs
    | cons t ts =>
      rw [List.map_cons, List.map_cons, List.intercalate_cons_cons]
      simp only [List.mem_append, not_or]
      exact ⟨⟨hs, hsep⟩, by simpa using hss⟩

/-! ## Strings on one line -/

/-- A string without a line feed. -/
def OneLine (s : String) : Prop := '\n' ∉ s.toList

namespace OneLine

@[simp] theorem append_iff {s t : String} : OneLine (s ++ t) ↔ OneLine s ∧ OneLine t := by
  simp [OneLine]

theorem ofList_iff {cs : List Char} : OneLine (String.ofList cs) ↔ '\n' ∉ cs := by
  simp [OneLine]

/-- The form for literals: the characters of a literal are at hand, its bytes are not. -/
theorem ofChars {cs : List Char} (h : '\n' ∉ cs) : OneLine (String.ofList cs) :=
  ofList_iff.mpr h

/-- A numeral is on one line: it holds digits only. -/
@[simp] theorem decimal (n : Nat) : OneLine (decimal n) := by
  intro h
  exact ne_of_mem_decimal (by decide) h rfl

/-- A literal is on one line whatever it stands for. -/
@[simp] theorem literal (s : String) : OneLine (Code.literal s) := by
  have he : OneLine (Code.escape s) := Code.notMem_escape (.inl rfl) s
  rw [Code.literal]
  simp only [append_iff]
  exact ⟨⟨ofChars (by decide), he⟩, ofChars (by decide)⟩

/-- Strings on one line stay so when they are joined by one. -/
theorem intercalate {sep : String} {ss : List String} (hsep : OneLine sep)
    (h : ∀ s ∈ ss, OneLine s) : OneLine (String.intercalate sep ss) :=
  notMem_intercalate hsep h

end OneLine

end AppBundle
