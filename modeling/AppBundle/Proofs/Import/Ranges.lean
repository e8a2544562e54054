import AppBundle.Proofs.Import.Parts
import AppBundle.Proofs.Sort
import AppBundle.Proofs.Text.Bytes

/-!
# The ranges of imports

What scanning reports as the range of an import is the part of the code that holds its specifier,
and the ranges follow each other. So the relative specifiers may be replaced one after the other in
the code as it is by then, from the last to the first: no replacement fails or moves a range that is
still to come, and the code outside the ranges is copied (`resolveAll_patches`).
-/

namespace AppBundle

namespace Import

open AppBundle.Text

/-! ## What is reported about an import -/

/-- Whether an import is where it says in code. -/
structure Marks (i : Import) (code : List Char) : Prop where
  /-- There is something in its range. -/
  nonempty : i.start < i.stop
  /-- The range begins and ends between characters. -/
  boundaries : isBoundary i.start code = true ∧ isBoundary i.stop code = true
  /-- It holds the specifier. -/
  slice : slice? i.start i.stop code = some i.specifier.toList
  /-- The specifier has no quote and is on one line. -/
  inside : ∀ c ∈ i.specifier.toList, isQuote c = false ∧ c ≠ '\n'
  /-- Its line is told by the line feeds in front of it. -/
  line : ∃ before behind, cutAt? i.start code = some (before, behind) ∧ i.line = countFeeds before

/-- What stands in front of a specifier tells all that is reported about it. -/
theorem marks_of_append {i : Import} {before behind : List Char}
    (hcontent : Content i.specifier.toList) (hstart : i.start = byteLength before)
    (hstop : i.stop = byteLength before + byteLength i.specifier.toList)
    (hline : i.line = countFeeds before) :
    i.Marks (before ++ i.specifier.toList ++ behind) where
  nonempty := by
    have hlength : byteLength i.specifier.toList ≠ 0 :=
      fun h => hcontent.ne_nil (byteLength_eq_zero.mp h)
    omega
  boundaries := by
    refine ⟨isBoundary_iff.mpr ⟨before, i.specifier.toList ++ behind, ?_, hstart.symm⟩,
      isBoundary_iff.mpr ⟨before ++ i.specifier.toList, behind, rfl, ?_⟩⟩
    · rw [List.append_assoc]
    · rw [hstop, byteLength_append]
  slice := by
    rw [hstart, hstop]
    exact slice?_append _ _ _
  inside c hc := by
    have hends := hcontent.inside c hc
    rw [endsSpecifier, Bool.or_eq_false_iff] at hends
    exact ⟨hends.1, by simpa using hends.2⟩
  line := by
    refine ⟨before, i.specifier.toList ++ behind, ?_, hline⟩
    rw [hstart, List.append_assoc, cutAt?_append]

/-! ## Imports among chunks -/

/-- The chunks of code are the code. -/
theorem flatMap_text_chunksBehind (before : Option Char) (cs : List Char) :
    (chunksBehind before cs).flatMap Chunk.text = cs := by
  have hplain : ∀ front : List Char, (front.map Chunk.plain).flatMap Chunk.text = front := by
    intro front
    rw [List.flatMap_map]
    exact List.flatMap_singleton' front
  induction before, cs using scan_induction with
  | nil before => rfl
  | plain before c cs hnone ih =>
    rw [chunksBehind_of_none hnone, List.flatMap_cons, ih]
    rfl
  | found before cs f hat ih =>
    rw [chunksBehind_of_importAt? hat, List.flatMap_append, List.flatMap_cons, List.flatMap_append,
      hplain, hplain, ih, eq_append_of_importAt? hat, Chunk.text]
    simp only [List.append_assoc]

theorem flatMap_text_chunks (code : List Char) : (chunks code).flatMap Chunk.text = code :=
  flatMap_text_chunksBehind none code

/-- An import that is located stands behind the chunks in front of it. -/
theorem exists_chunks_of_mem_locate {cs : List Chunk} {offset line : Nat} {i : Import}
    (hfeeds : ∀ s, .specifier s ∈ cs → '\n' ∉ s) (hi : i ∈ locate offset line cs) :
    ∃ before after, cs = before ++ .specifier i.specifier.toList :: after ∧
      i.start = offset + byteLength (before.flatMap Chunk.text) ∧
      i.stop = i.start + byteLength i.specifier.toList ∧
      i.line = line + countFeeds (before.flatMap Chunk.text) := by
  induction cs generalizing offset line with
  | nil => exact absurd hi List.not_mem_nil
  | cons c cs ih =>
    have hrest : ∀ s, .specifier s ∈ cs → '\n' ∉ s :=
      fun s hs => hfeeds s (List.mem_cons_of_mem _ hs)
    cases c with
    | plain c =>
      obtain ⟨before, after, rfl, hstart, hstop, hline⟩ := ih hrest hi
      refine ⟨.plain c :: before, after, rfl, ?_, hstop, ?_⟩
      · rw [hstart, List.flatMap_cons, byteLength_append, ← Nat.add_assoc]
        rfl
      · rw [hline, List.flatMap_cons, countFeeds, countFeeds, List.count_append, Chunk.text]
        by_cases hc : c = '\n'
        · simp [hc, Nat.add_assoc]
        · simp [hc]
    | specifier s =>
      rcases List.mem_cons.mp hi with rfl | hi
      · refine ⟨[], cs, ?_, rfl, ?_, rfl⟩
        · rw [String.toList_ofList]
          rfl
        · rw [String.toList_ofList]
      · obtain ⟨before, after, rfl, hstart, hstop, hline⟩ := ih hrest hi
        have hnone : s.count '\n' = 0 :=
          List.count_eq_zero.mpr (hfeeds s List.mem_cons_self)
        refine ⟨.specifier s :: before, after, rfl, ?_, hstop, ?_⟩
        · rw [hstart, List.flatMap_cons, byteLength_append, ← Nat.add_assoc]
          rfl
        · rw [hline, List.flatMap_cons, countFeeds, countFeeds, List.count_append, Chunk.text, hnone,
            Nat.zero_add]

theorem feed_notMem_of_mem_chunks {code s : List Char} (h : .specifier s ∈ chunks code) :
    '\n' ∉ s :=
  (content_of_mem h).feed_notMem

theorem marks_of_mem_scan {code : String} {i : Import} (hi : i ∈ scan code) :
    i.Marks code.toList := by
  obtain ⟨before, after, hchunks, hstart, hstop, hline⟩ :=
    exists_chunks_of_mem_locate (fun _ => feed_notMem_of_mem_chunks) hi
  have hmem : .specifier i.specifier.toList ∈ chunks code.toList := by rw [hchunks]; simp
  rw [Nat.zero_add] at hstart hline
  have htext := flatMap_text_chunks code.toList
  rw [hchunks, List.flatMap_append, List.flatMap_cons, ← List.append_assoc] at htext
  rw [← htext]
  exact marks_of_append (content_of_mem hmem) hstart (hstart ▸ hstop) hline

/-- Imports follow each other. -/
theorem pairwise_locate (offset line : Nat) (cs : List Chunk) :
    (locate offset line cs).Pairwise (·.stop ≤ ·.start) ∧
      ∀ i ∈ locate offset line cs, offset ≤ i.start := by
  induction cs generalizing offset line with
  | nil => exact ⟨.nil, by simp [locate]⟩
  | cons c cs ih =>
    cases c with
    | plain c =>
      obtain ⟨hpairs, hle⟩ := ih (offset + c.utf8Size) (if c = '\n' then line + 1 else line)
      exact ⟨hpairs, fun i hi => Nat.le_trans (Nat.le_add_right _ _) (hle i hi)⟩
    | specifier s =>
      obtain ⟨hpairs, hle⟩ := ih (offset + byteLength s) line
      refine ⟨List.pairwise_cons.mpr ⟨hle, hpairs⟩, fun i hi => ?_⟩
      rcases List.mem_cons.mp hi with rfl | hi
      · exact Nat.le_refl _
      · exact Nat.le_trans (Nat.le_add_right _ _) (hle i hi)

/-- From the last to the first, imports are in the order of a sort by where they begin. -/
theorem mergeSort_scan (code : String) :
    ((scan code).mergeSort fun i j => j.start ≤ i.start) = (scan code).reverse := by
  have hpairs := (pairwise_locate 0 0 (chunks code.toList)).1
  have hascending : (scan code).Pairwise (·.start < ·.start) := by
    refine hpairs.imp_of_mem fun {i j} hi _ hij => ?_
    exact Nat.lt_of_lt_of_le (marks_of_mem_scan hi).nonempty hij
  refine mergeSort_eq_of_perm (List.reverse_perm _).symm ?_ ?_
  · exact List.pairwise_map.mpr (hascending.imp Nat.ne_of_lt)
  · exact List.pairwise_reverse.mpr (hascending.imp Nat.le_of_lt)

/-! ## Replacing specifiers -/

/-- A text from an offset on with the ranges of imports replaced: what stands in front of a range is
copied, and so is what stands behind the last. There is no such text if the ranges are no parts that
follow each other. -/
def patched (text : List Char) (new : Import → List Char) : Nat → List Import → Option (List Char)
  | offset, [] => slice? offset (byteLength text) text
  | offset, i :: rest => do
    let kept ← slice? offset i.start text
    let behind ← patched text new i.stop rest
    return kept ++ new i ++ behind

/-- The range of an import replaced in a text, if the specifier is relative. There is no such text if
the range is none of the text. -/
def resolveIn (sourceId : String) (text : List Char) (i : Import) : Option (List Char) :=
  if isRelative i.specifier then
    replaceRange? i.start i.stop (absoluteReference sourceId i.specifier).toList text
  else some text

theorem resolveText_of_relative {sourceId : String} {s : List Char}
    (h : isRelative (String.ofList s) = true) :
    resolveText sourceId s = (absoluteReference sourceId (String.ofList s)).toList := by
  rw [resolveText, resolve, if_pos h]

theorem resolveText_of_not_relative {sourceId : String} {s : List Char}
    (h : isRelative (String.ofList s) = false) : resolveText sourceId s = s := by
  rw [resolveText, resolve, if_neg (by simp [h]), String.toList_ofList]

/-- Replacing the ranges of relative specifiers exchanges the specifiers among the chunks. The text
between the last range and the chunks still to come is `gap`. -/
theorem patched_locate (sourceId : String) (cs : List Chunk) (front gap : List Char) (line : Nat) :
    patched (front ++ gap ++ cs.flatMap Chunk.text)
        (fun i => (absoluteReference sourceId i.specifier).toList) (byteLength front)
        ((locate (byteLength (front ++ gap)) line cs).filter (isRelative ·.specifier)) =
      some (gap ++ exchanged (resolveText sourceId) cs) := by
  induction cs generalizing front gap line with
  | nil =>
    have hslice := slice?_append front gap []
    rw [List.append_nil, ← byteLength_append] at hslice
    simpa [locate, patched, exchanged] using hslice
  | cons c cs ih =>
    cases c with
    | plain c =>
      have hrest := ih front (gap ++ [c]) (if c = '\n' then line + 1 else line)
      have hoffset : byteLength (front ++ (gap ++ [c])) =
          byteLength (front ++ gap) + c.utf8Size := by
        simp only [byteLength_append, byteLength]
        omega
      rw [hoffset, ← List.append_assoc] at hrest
      simpa [exchanged, locate, Chunk.text] using hrest
    | specifier s =>
      have htext : front ++ gap ++ (Chunk.specifier s :: cs).flatMap Chunk.text =
          front ++ gap ++ s ++ cs.flatMap Chunk.text := by
        rw [List.flatMap_cons, Chunk.text, List.append_assoc _ s]
      rw [locate, exchanged_specifier_cons, htext]
      cases hrelative : isRelative (String.ofList s) with
      | true =>
        -- the text up to the specifier is kept, and the next range begins behind it
        have hkept := slice?_append front gap (s ++ cs.flatMap Chunk.text)
        have hrest := ih (front ++ gap ++ s) [] line
        rw [List.append_nil, List.nil_append, byteLength_append _ s] at hrest
        rw [← byteLength_append, ← List.append_assoc] at hkept
        simp only [List.filter_cons, hrelative, if_true, patched, hkept, hrest,
          resolveText_of_relative hrelative, Option.bind_eq_bind, Option.bind_some, Option.pure_def]
        rw [List.append_assoc]
      | false =>
        -- the specifier is part of what is kept
        have hrest := ih front (gap ++ s) line
        rw [← List.append_assoc, byteLength_append _ s] at hrest
        simp only [List.filter_cons, hrelative, Bool.false_eq_true, if_false, hrest,
          resolveText_of_not_relative hrelative]
        rw [List.append_assoc]

/-- One after the other from the last to the first, relative specifiers are replaced where they stand
in the text as it is by then, because the text in front of them is as it was. -/
theorem foldlM_locate (sourceId : String) (cs : List Chunk) (front : List Char) (line : Nat) :
    (locate (byteLength front) line cs).reverse.foldlM (resolveIn sourceId)
        (front ++ cs.flatMap Chunk.text) =
      some (front ++ exchanged (resolveText sourceId) cs) := by
  induction cs generalizing front line with
  | nil => rfl
  | cons c cs ih =>
    cases c with
    | plain c =>
      have hrest := ih (front ++ [c]) (if c = '\n' then line + 1 else line)
      rw [byteLength_append, byteLength, byteLength_nil, Nat.add_zero] at hrest
      simpa [exchanged, locate, Chunk.text] using hrest
    | specifier s =>
      have hrest := ih (front ++ s) line
      rw [byteLength_append, List.append_assoc, List.append_assoc] at hrest
      rw [locate, List.reverse_cons, List.foldlM_append, List.flatMap_cons, Chunk.text, hrest,
        exchanged_specifier_cons, Option.bind_eq_bind, Option.bind_some]
      simp only [List.foldlM_cons, List.foldlM_nil, bind_pure, resolveIn]
      cases hrelative : isRelative (String.ofList s) with
      | true =>
        rw [if_pos rfl, ← List.append_assoc, replaceRange?_append,
          resolveText_of_relative hrelative, List.append_assoc]
      | false => rw [if_neg (by simp), resolveText_of_not_relative hrelative]

/-- Resolving touches the specifiers and nothing else. Every import that is reported is where it says
in the code, and the imports follow each other. The relative specifiers may be replaced in place from
the last to the first, which never fails, and what comes out is the code with their ranges replaced
by what they are resolved to. -/
theorem resolveAll_patches (sourceId code : String) :
    (∀ i ∈ scan code, i.Marks code.toList) ∧
      (scan code).Pairwise (·.stop ≤ ·.start) ∧
      ((scan code).mergeSort fun i j => j.start ≤ i.start).foldlM (resolveIn sourceId) code.toList =
        some (resolveAll sourceId code).toList ∧
      patched code.toList (fun i => (absoluteReference sourceId i.specifier).toList) 0
          ((scan code).filter (isRelative ·.specifier)) =
        some (resolveAll sourceId code).toList := by
  have hplace := foldlM_locate sourceId (chunks code.toList) [] 0
  have hpatched := patched_locate sourceId (chunks code.toList) [] [] 0
  simp only [List.nil_append, byteLength_nil, flatMap_text_chunks, ← toList_resolveAll]
    at hplace hpatched
  refine ⟨fun i hi => marks_of_mem_scan hi, (pairwise_locate 0 0 _).1, ?_, hpatched⟩
  rw [mergeSort_scan]
  exact hplace

end Import

end AppBundle
