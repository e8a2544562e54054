import AppBundle.Proofs.SourceMap.Segments

/-!
# Looking up a column

A column of a generated line belongs to one of the segments of the line that come from a source: to
the last of them that begins at or before it (`IsLastAt`), and to the first of them all where there
is none. The segments of a line stand in the order of the text, and their columns may go back. The
last segment is the closest one (`IsClosestTo`) where they do not.
-/

namespace AppBundle

open AppBundle.Text

/-- The place that a segment comes from, its line counted from one. -/
def SegmentOrigin.place? (s : SegmentOrigin) : Option SourcePlace :=
  if s.line < maxWord32 then some ⟨s.source, s.line + 1, s.column⟩ else none

/-- Only the last line of 32 bits has no place behind it. -/
theorem SegmentOrigin.place?_eq_none_iff {s : SegmentOrigin} :
    s.place? = none ↔ maxWord32 ≤ s.line := by
  unfold SegmentOrigin.place?
  split <;> simp <;> omega

/-! ## Among the segments of a line -/

section Chosen

variable {ss : List (Nat × SegmentOrigin)} {s : Nat × SegmentOrigin} {c : Nat}

/-- The last segment that begins at or before a column. -/
def IsLastAt (ss : List (Nat × SegmentOrigin)) (c : Nat) (s : Nat × SegmentOrigin) : Prop :=
  ∃ front back, ss = front ++ s :: back ∧ s.1 ≤ c ∧ ∀ x ∈ back, c < x.1

/-- The segment that begins closest before a column or at it; of several at one place, the last. -/
def IsClosestTo (ss : List (Nat × SegmentOrigin)) (c : Nat) (s : Nat × SegmentOrigin) : Prop :=
  ∃ front back, ss = front ++ s :: back ∧ s.1 ≤ c ∧ (∀ x ∈ front, x.1 ≤ c → x.1 ≤ s.1) ∧
    ∀ x ∈ back, x.1 ≤ c → x.1 < s.1

theorem exists_isLastAt (h : ∃ s ∈ ss, s.1 ≤ c) : ∃ s, IsLastAt ss c s := by
  induction ss with
  | nil =>
    obtain ⟨s, hs, -⟩ := h
    exact absurd hs List.not_mem_nil
  | cons x ss ih =>
    by_cases hrest : ∃ s ∈ ss, s.1 ≤ c
    · obtain ⟨s, front, back, rfl, hs⟩ := ih hrest
      exact ⟨s, x :: front, back, rfl, hs⟩
    · have hback : ∀ y ∈ ss, c < y.1 := fun y hy => Nat.lt_of_not_le fun hle => hrest ⟨y, hy, hle⟩
      obtain ⟨s, hs, hle⟩ := h
      rcases List.mem_cons.mp hs with rfl | hs
      · exact ⟨s, [], ss, rfl, hle, hback⟩
      · exact absurd ⟨s, hs, hle⟩ hrest

/-- The segments that begin at or before a column end in the last of them. -/
theorem IsLastAt.getLast?_filter (h : IsLastAt ss c s) :
    (ss.filter (·.1 ≤ c)).getLast? = some s := by
  obtain ⟨front, back, rfl, hle, hback⟩ := h
  have hnone : back.filter (·.1 ≤ c) = [] := by
    refine List.filter_eq_nil_iff.mpr fun x hx => ?_
    have hlt := hback x hx
    simp only [decide_eq_true_eq]
    omega
  rw [List.filter_append, List.filter_cons_of_pos (by simpa using hle), hnone,
    List.getLast?_append_of_ne_nil _ (List.cons_ne_nil s [])]
  rfl

/-- Where columns do not go back, the last segment is the closest. -/
theorem IsLastAt.isClosestTo (h : IsLastAt ss c s) (hascending : ss.Pairwise (·.1 ≤ ·.1)) :
    IsClosestTo ss c s := by
  obtain ⟨front, back, rfl, hle, hback⟩ := h
  refine ⟨front, back, rfl, hle, fun x hx _ => ?_, fun x hx hxc => ?_⟩
  · exact (List.pairwise_append.mp hascending).2.2 x hx s List.mem_cons_self
  · exact absurd (hback x hx) (Nat.not_lt_of_le hxc)

end Chosen

/-! ## Columns in the text -/

namespace SourceMap

/-- No segment of a line begins before the one in front of it: no difference of columns is
negative. -/
def MovesForward (line : List Char) : Prop :=
  ∀ fields, WritesLine line fields → ∀ f ∈ fields, 0 ≤ f.getD 0 0

namespace Totals

variable {t : Totals} {line : List (List Int)}

/-- Columns that do not go back stand in ascending order. -/
theorem pairwise_segments (ht : t.AdmitsAll line) (h : ∀ f ∈ line, 0 ≤ f.getD 0 0) :
    (t.segments line).Pairwise (·.column ≤ ·.column) ∧
      ∀ s ∈ t.segments line, t.column ≤ s.column := by
  induction line generalizing t with
  | nil => exact ⟨.nil, fun s hs => absurd hs List.not_mem_nil⟩
  | cons fields line ih =>
    obtain ⟨hasc, hle⟩ := ih ht.2 fun f hf => h f (List.mem_cons_of_mem fields hf)
    have hstep : t.column ≤ (t.plus fields).column := by
      have hfirst := h fields List.mem_cons_self
      show t.column ≤ ((t.column : Int) + fields.getD 0 0).toNat
      omega
    refine ⟨List.pairwise_cons.mpr ⟨hle, hasc⟩, fun s hs => ?_⟩
    rcases List.mem_cons.mp hs with rfl | hs
    · exact hstep
    · exact hstep.trans (hle s hs)

/-- The lines of segments are words. -/
theorem line_of_mem_segments (ht : t.AdmitsAll line) {s : Segment} (hs : s ∈ t.segments line)
    {o : SegmentOrigin} (ho : s.source = some o) : o.line ≤ maxWord32 := by
  induction line generalizing t with
  | nil => exact absurd hs List.not_mem_nil
  | cons fields line ih =>
    rcases List.mem_cons.mp hs with rfl | hs
    · have hfits := fits_iff.mp (fits_plus ht.1) 2 (by decide)
      have hline : ((t.plus fields).line : Int) ≤ maxWord32 := hfits.2
      rw [segment] at ho
      split at ho
      · exact absurd ho (by simp)
      · obtain rfl := Option.some.inj ho
        exact_mod_cast hline
    · exact ih ht.2 hs

/-- A line that is read is made up of the segments that its text writes. -/
theorem exists_of_getElem?_lineSegments {texts : List (List Char)} {lines : List (List (List Int))}
    (hwrites : List.Forall₂ WritesLine texts lines) (ht : t.AdmitsLines lines) {i : Nat}
    {ss : List Segment} (hi : (t.lineSegments lines)[i]? = some ss) :
    ∃ (u : Totals) (text : List Char) (fields : List (List Int)), texts[i]? = some text ∧
      WritesLine text fields ∧ u.AdmitsAll fields ∧ ss = u.segments fields := by
  induction hwrites generalizing t i with
  | nil => exact absurd hi (by simp [lineSegments])
  | @cons text fields texts lines hline _ ih =>
    cases i with
    | zero => exact ⟨t.newLine, text, fields, rfl, hline, ht.1, (Option.some.inj hi).symm⟩
    | succ i => exact ih ht.2 hi

end Totals

end SourceMap

/-! ## Looking up -/

namespace Mappings

variable {m : Mappings} {line c : Nat} {s : Nat × SegmentOrigin} {column : Option Nat}

theorem placeOf?_eq : m.placeOf? line column =
    (m.segmentAt? line column).bind SegmentOrigin.place? := by
  unfold placeOf?
  cases m.segmentAt? line column <;> rfl

/-- Of the segments at or before a column, the last is the one it belongs to. -/
theorem segmentAt?_of_isLastAt (h : IsLastAt (m.sourced line) c s) :
    m.segmentAt? line (some c) = some s.2 := by
  simp only [segmentAt?, Option.bind_some, h.getLast?_filter]
  rfl

/-- Where no segment begins at or before a column, the first of the line is the one it belongs
to. -/
theorem segmentAt?_of_forall_lt (h : ∀ c, column = some c → ∀ x ∈ m.sourced line, c < x.1) :
    m.segmentAt? line column = (m.sourced line).head?.map (·.2) := by
  have hnone : (column.bind fun c => ((m.sourced line).filter (·.1 ≤ c)).getLast?) = none := by
    cases column with
    | none => rfl
    | some c =>
      have hfilter : (m.sourced line).filter (·.1 ≤ c) = [] := by
        refine List.filter_eq_nil_iff.mpr fun x hx => ?_
        have hlt := h c rfl x hx
        simp only [decide_eq_true_eq]
        omega
      rw [Option.bind_some, hfilter]
      rfl
  simp only [segmentAt?, hnone]
  rfl

/-- A column belongs to the last segment at or before it, or there is none at or before it. -/
theorem segmentAt?_cases (m : Mappings) (line : Nat) (column : Option Nat) :
    (∃ c s, column = some c ∧ IsLastAt (m.sourced line) c s ∧
        m.segmentAt? line column = some s.2) ∨
      m.segmentAt? line column = (m.sourced line).head?.map (·.2) := by
  by_cases hlt : ∀ c, column = some c → ∀ x ∈ m.sourced line, c < x.1
  · exact .inr (segmentAt?_of_forall_lt hlt)
  · push Not at hlt
    obtain ⟨c, rfl, hle⟩ := hlt
    obtain ⟨s, hs⟩ := exists_isLastAt hle
    exact .inl ⟨c, s, rfl, hs, segmentAt?_of_isLastAt hs⟩

/-- What a column belongs to is a segment of the line. -/
theorem exists_mem_of_segmentAt? {o : SegmentOrigin} (h : m.segmentAt? line column = some o) :
    ∃ s ∈ m.segments line, s.source = some o := by
  have hmem : ∃ s ∈ m.sourced line, s.2 = o := by
    rcases m.segmentAt?_cases line column with ⟨c, s, -, ⟨front, back, hsplit, -⟩, hat⟩ | hat
    · exact ⟨s, by rw [hsplit]; simp, Option.some.inj (hat.symm.trans h)⟩
    · rw [hat, Option.map_eq_some_iff] at h
      obtain ⟨s, hs, hso⟩ := h
      exact ⟨s, List.mem_of_mem_head? hs, hso⟩
  obtain ⟨s, hs, rfl⟩ := hmem
  obtain ⟨x, hx, hsource⟩ := List.mem_filterMap.mp hs
  obtain ⟨o, ho, rfl⟩ := Option.map_eq_some_iff.mp hsource
  exact ⟨x, hx, ho⟩

/-- Columns of a line belong to no segment if none of the line comes from a source. -/
theorem segmentAt?_eq_none_iff :
    m.segmentAt? line column = none ↔ ∀ s ∈ m.segments line, s.source = none := by
  constructor
  · intro h
    have hempty : m.sourced line = [] := by
      rcases m.segmentAt?_cases line column with ⟨c, s, -, -, hat⟩ | hat
      · exact absurd (hat.symm.trans h) (by simp)
      · rwa [h, eq_comm, Option.map_eq_none_iff, List.head?_eq_none_iff] at hat
    intro s hs
    have hnone := List.filterMap_eq_nil_iff.mp hempty s hs
    rwa [Option.map_eq_none_iff] at hnone
  · intro h
    cases hat : m.segmentAt? line column with
    | none => rfl
    | some o =>
      obtain ⟨s, hs, hsource⟩ := exists_mem_of_segmentAt? hat
      exact absurd (hsource.symm.trans (h s hs)) (by simp)

/-! ## Mappings that were read -/

variable {text : String}

/-- A line with segments is one that the text writes. -/
theorem exists_of_readMappings (h : SourceMap.readMappings text = .ok m)
    (hline : m.segments line ≠ []) :
    ∃ (t : SourceMap.Totals) (cs : List Char) (fields : List (List Int)),
      (split ';' text.toList)[line - 1]? = some cs ∧ SourceMap.WritesLine cs fields ∧
      t.AdmitsAll fields ∧ m.segments line = t.segments fields := by
  obtain ⟨lines, hwrites, hadmits, rfl⟩ := SourceMap.readMappings_eq_ok.mp h
  unfold segments at hline ⊢
  split at hline
  · exact absurd rfl hline
  · next hpos =>
    rw [if_neg hpos]
    cases hget : (SourceMap.Totals.zero.lineSegments lines)[line - 1]? with
    | none => exact absurd (by simp [hget]) hline
    | some ss =>
      simp only [Option.getD_some]
      exact SourceMap.Totals.exists_of_getElem?_lineSegments hwrites hadmits hget

/-- The lines that columns belong to are words. -/
theorem line_of_segmentAt? (h : SourceMap.readMappings text = .ok m) {o : SegmentOrigin}
    (ho : m.segmentAt? line column = some o) : o.line ≤ maxWord32 := by
  obtain ⟨s, hs, hsource⟩ := exists_mem_of_segmentAt? ho
  obtain ⟨t, -, fields, -, -, hadmits, hss⟩ := exists_of_readMappings h (List.ne_nil_of_mem hs)
  rw [hss] at hs
  exact SourceMap.Totals.line_of_mem_segments hadmits hs hsource

/-- The segments of a line stand in ascending order if its text moves forward. -/
theorem pairwise_sourced (h : SourceMap.readMappings text = .ok m)
    (hforward : ∀ cs, (split ';' text.toList)[line - 1]? = some cs → SourceMap.MovesForward cs) :
    (m.sourced line).Pairwise (·.1 ≤ ·.1) := by
  by_cases hline : m.segments line = []
  · rw [sourced, hline]
    exact .nil
  · obtain ⟨t, cs, fields, hcs, hwrites, hadmits, hss⟩ := exists_of_readMappings h hline
    have hasc := (SourceMap.Totals.pairwise_segments hadmits (hforward cs hcs fields hwrites)).1
    rw [sourced, hss, List.pairwise_filterMap]
    refine hasc.imp fun {s r} hle x hx y hy => ?_
    obtain ⟨_, _, rfl⟩ := Option.map_eq_some_iff.mp hx
    obtain ⟨_, _, rfl⟩ := Option.map_eq_some_iff.mp hy
    exact hle

/-- How a line of mappings answers. -/
structure Answers (m : Mappings) (line : Nat) (text : String) : Prop where
  /-- Of the segments that begin at or before a column, the last of the line answers. -/
  last {c : Nat} (h : ∃ s ∈ m.sourced line, s.1 ≤ c) :
    ∃ s, IsLastAt (m.sourced line) c s ∧ m.placeOf? line (some c) = s.2.place?
  /-- It is the closest to the column if no difference of columns on the line is negative. -/
  closest {c : Nat} {s : Nat × SegmentOrigin} (h : IsLastAt (m.sourced line) c s)
    (hforward : ∀ cs, (split ';' text.toList)[line - 1]? = some cs → SourceMap.MovesForward cs) :
    IsClosestTo (m.sourced line) c s
  /-- Where no segment begins at or before a column, and where no column is asked for, the first of
  the line answers. -/
  first {column : Option Nat} (h : ∀ c, column = some c → ∀ s ∈ m.sourced line, c < s.1) :
    m.placeOf? line column = (m.sourced line).head?.bind (·.2.place?)
  /-- There is no answer where the line is none, where no segment of it comes from a source, and
  where the line of the segment that answers has none behind it. -/
  none_iff {column : Option Nat} :
    m.placeOf? line column = none ↔
      line = 0 ∨ m.lines.length < line ∨ (∀ s ∈ m.segments line, s.source = none) ∨
        ∃ o, m.segmentAt? line column = some o ∧ o.line = maxWord32

theorem segments_eq_nil (hline : line = 0 ∨ m.lines.length < line) : m.segments line = [] := by
  unfold segments
  split
  · rfl
  · next hpos =>
    have hlen : m.lines.length ≤ line - 1 := by omega
    rw [List.getElem?_eq_none hlen]
    rfl

/-- Mappings that were read answer with the last segment at or before a column. -/
theorem answers_of_readMappings (h : SourceMap.readMappings text = .ok m) (line : Nat) :
    m.Answers line text where
  last hle := by
    obtain ⟨s, hs⟩ := exists_isLastAt hle
    refine ⟨s, hs, ?_⟩
    rw [placeOf?_eq, segmentAt?_of_isLastAt hs, Option.bind_some]
  closest hs hforward := hs.isClosestTo (pairwise_sourced h hforward)
  first hlt := by
    rw [placeOf?_eq, segmentAt?_of_forall_lt hlt]
    cases (m.sourced line).head? <;> rfl
  none_iff {column} := by
    have hout : line = 0 ∨ m.lines.length < line → ∀ s ∈ m.segments line, s.source = none := by
      intro hline
      rw [segments_eq_nil hline]
      simp
    rw [placeOf?_eq]
    cases hat : m.segmentAt? line column with
    | none =>
      -- no segment answers
      refine iff_of_true rfl (.inr (.inr (.inl ?_)))
      exact segmentAt?_eq_none_iff.mp hat
    | some o =>
      -- a segment answers, so the line has one, and its line is a word
      have hword := line_of_segmentAt? h hat
      have hsome : ¬ ∀ s ∈ m.segments line, s.source = none := by
        intro hnone
        have hempty : m.segmentAt? line column = none := segmentAt?_eq_none_iff.mpr hnone
        exact absurd (hat.symm.trans hempty) (by simp)
      rw [Option.bind_some, SegmentOrigin.place?_eq_none_iff]
      constructor
      · intro hle
        exact .inr (.inr (.inr ⟨o, rfl, Nat.le_antisymm hword hle⟩))
      · rintro (hnone | hnone | hnone | ⟨_, ho, hmax⟩)
        · exact absurd (hout (.inl hnone)) hsome
        · exact absurd (hout (.inr hnone)) hsome
        · exact absurd hnone hsome
        · obtain rfl := Option.some.inj ho
          exact Nat.le_of_eq hmax.symm

/-- A line whose second segment begins ten columns behind the first. -/
def forwardText : String := "KAAA,UACA"

/-- Its mappings. -/
def forwardMappings : Mappings where
  lines := [[⟨5, some ⟨0, 0, 0, none⟩⟩, ⟨15, some ⟨0, 1, 0, none⟩⟩]]

theorem movesForward_forwardText : SourceMap.MovesForward forwardText.toList := by
  intro fields hwrites
  have hfilled : SourceMap.filled (split ',' forwardText.toList) =
      ["KAAA".toList, "UACA".toList] := by decide +kernel
  rw [SourceMap.WritesLine, hfilled] at hwrites
  obtain _ | ⟨⟨hfirst, -⟩, hrest⟩ := hwrites
  obtain _ | ⟨⟨hsecond, -⟩, hnil⟩ := hrest
  cases hnil
  have hfive : SourceMap.fieldsAt 0 "KAAA".toList = .ok [5, 0, 0, 0] := by rfl
  have hten : SourceMap.fieldsAt 0 "UACA".toList = .ok [10, 0, 1, 0] := by rfl
  obtain rfl := Except.ok.inj ((SourceMap.readFields_eq_ok.mpr hfirst).symm.trans hfive)
  obtain rfl := Except.ok.inj ((SourceMap.readFields_eq_ok.mpr hsecond).symm.trans hten)
  decide

/-- A column behind both segments belongs to the second, which is the closest. -/
theorem forwardText_closest :
    SourceMap.readMappings forwardText = .ok forwardMappings ∧
      IsClosestTo (forwardMappings.sourced 1) 20 (15, ⟨0, 1, 0, none⟩) ∧
      forwardMappings.placeOf? 1 (some 20) = some ⟨0, 2, 0⟩ := by
  have hread : SourceMap.readMappings forwardText = .ok forwardMappings := by rfl
  have hlast : IsLastAt (forwardMappings.sourced 1) 20 (15, ⟨0, 1, 0, none⟩) :=
    ⟨[(5, ⟨0, 0, 0, none⟩)], [], rfl, by decide, by simp⟩
  have hforward : ∀ cs, (split ';' forwardText.toList)[1 - 1]? = some cs →
      SourceMap.MovesForward cs := by
    intro cs hcs
    have hline : (split ';' forwardText.toList)[1 - 1]? = some forwardText.toList := by
      decide +kernel
    obtain rfl := Option.some.inj (hline.symm.trans hcs)
    exact movesForward_forwardText
  exact ⟨hread, (answers_of_readMappings hread 1).closest hlast hforward, by decide +kernel⟩

/-- A line whose second segment begins five columns in front of the first. -/
def backwardMappings : Mappings where
  lines := [[⟨10, some ⟨0, 0, 0, none⟩⟩, ⟨5, some ⟨0, 1, 0, none⟩⟩]]

/-- A column behind both segments is closest to the first, and the second answers. -/
theorem backwardText_not_closest :
    SourceMap.readMappings "UAAA,LACA" = .ok backwardMappings ∧
      IsClosestTo (backwardMappings.sourced 1) 20 (10, ⟨0, 0, 0, none⟩) ∧
      SegmentOrigin.place? ⟨0, 0, 0, none⟩ = some ⟨0, 1, 0⟩ ∧
      backwardMappings.placeOf? 1 (some 20) = some ⟨0, 2, 0⟩ := by
  refine ⟨rfl, ⟨[], [(5, ⟨0, 1, 0, none⟩)], rfl, by decide, by simp, ?_⟩, by decide, by decide⟩
  simp

end Mappings

end AppBundle
