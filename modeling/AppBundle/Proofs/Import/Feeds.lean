import AppBundle.Generated.Module
import AppBundle.Proofs.Import.Parts

/-!
# Imports and line ends

Carriage returns in front of line feeds do not matter to a scan: code with every line end made a line
feed has the chunks of the code without these characters (`chunks_unifyFeeds`), so the same specifiers
are found in it.
-/

namespace AppBundle

namespace Text

variable {cs x y : List Char} {c : Char}

theorem unifyFeeds_cons (h : c = '\r' → cs.head? ≠ some '\n') :
    unifyFeeds (c :: cs) = c :: unifyFeeds cs := by
  rw [unifyFeeds]
  rintro rest rfl rfl
  exact h rfl rfl

theorem head?_ne_of_not_feed (h : ∀ rest, c = '\r' → cs = '\n' :: rest → False) :
    c = '\r' → cs.head? ≠ some '\n' := by
  intro hc hhead
  obtain ⟨rest, rfl⟩ := List.head?_eq_some_iff.mp hhead
  exact h rest hc rfl

theorem unifyFeeds_append (h : x.getLast? = some '\r' → y.head? ≠ some '\n') :
    unifyFeeds (x ++ y) = unifyFeeds x ++ unifyFeeds y := by
  fun_induction unifyFeeds x with
  | case1 => rfl
  | case2 rest ih =>
    rw [List.cons_append, List.cons_append, unifyFeeds, ih fun hlast => h (by
      rw [List.getLast?_cons, List.getLast?_cons, hlast]; rfl)]
    rfl
  | case3 c rest hne ih =>
    have hcons : c = '\r' → (rest ++ y).head? ≠ some '\n' := by
      rintro rfl
      cases rest with
      | nil => exact h rfl
      | cons d rest => simpa using head?_ne_of_not_feed hne rfl
    rw [List.cons_append, unifyFeeds_cons hcons, ih fun hlast => h (by
      rw [List.getLast?_cons, hlast]; rfl)]
    rfl

theorem mem_of_mem_unifyFeeds (h : c ∈ unifyFeeds cs) : c ∈ cs := by
  fun_induction unifyFeeds cs with
  | case1 => exact h
  | case2 rest ih =>
    rcases List.mem_cons.mp h with rfl | h
    · simp
    · simp [ih h]
  | case3 d rest hne ih =>
    rcases List.mem_cons.mp h with rfl | h
    · simp
    · simp [ih h]

/-- Only carriage returns go. -/
theorem mem_unifyFeeds_or (h : c ∈ cs) : c ∈ unifyFeeds cs ∨ c = '\r' := by
  fun_induction unifyFeeds cs with
  | case1 => exact absurd h List.not_mem_nil
  | case2 rest ih =>
    rcases List.mem_cons.mp h with rfl | h
    · exact .inr rfl
    · rcases List.mem_cons.mp h with rfl | h
      · simp
      · exact (ih h).imp_left (List.mem_cons_of_mem _)
  | case3 d rest hne ih =>
    rcases List.mem_cons.mp h with rfl | h
    · simp
    · exact (ih h).imp_left (List.mem_cons_of_mem _)

theorem getLast?_unifyFeeds (cs : List Char) : (unifyFeeds cs).getLast? = cs.getLast? := by
  fun_induction unifyFeeds cs with
  | case1 => rfl
  | case2 rest ih => rw [List.getLast?_cons, List.getLast?_cons, List.getLast?_cons, ih]; rfl
  | case3 c rest hne ih => rw [List.getLast?_cons, List.getLast?_cons, ih]

/-- A beginning without line feeds stands there already. -/
theorem exists_of_unifyFeeds_eq (hx : '\n' ∉ x) (h : unifyFeeds cs = x ++ y) :
    ∃ y', cs = x ++ y' ∧ unifyFeeds y' = y := by
  induction x generalizing cs with
  | nil => exact ⟨cs, rfl, h⟩
  | cons c x ih =>
    rw [List.mem_cons, not_or] at hx
    fun_cases unifyFeeds cs with
    | case1 => simp [unifyFeeds] at h
    | case2 rest =>
      obtain ⟨rfl, -⟩ := List.cons.inj h
      exact absurd rfl hx.1
    | case3 d rest hne =>
      rw [unifyFeeds_cons (head?_ne_of_not_feed hne)] at h
      obtain ⟨rfl, hrest⟩ := List.cons.inj h
      obtain ⟨y', rfl, hy⟩ := ih hx.2 hrest
      exact ⟨y', rfl, hy⟩

/-- A text in two parts comes from a text in two parts. -/
theorem exists_of_unifyFeeds_append (h : unifyFeeds cs = x ++ y) (hy : y.head? ≠ some '\n') :
    ∃ x' y', cs = x' ++ y' ∧ unifyFeeds x' = x ∧ unifyFeeds y' = y := by
  fun_induction unifyFeeds cs generalizing x with
  | case1 =>
    obtain ⟨rfl, rfl⟩ := List.append_eq_nil_iff.mp h.symm
    exact ⟨[], [], rfl, rfl, rfl⟩
  | case2 rest ih =>
    cases x with
    | nil =>
      obtain rfl : '\n' :: unifyFeeds rest = y := h
      exact absurd rfl hy
    | cons c x =>
      obtain ⟨rfl, hrest⟩ := List.cons.inj h
      obtain ⟨x', y', rfl, rfl, hy'⟩ := ih hrest
      exact ⟨'\r' :: '\n' :: x', y', rfl, rfl, hy'⟩
  | case3 c rest hne ih =>
    have hcons := head?_ne_of_not_feed hne
    cases x with
    | nil => exact ⟨[], c :: rest, rfl, rfl, (unifyFeeds_cons hcons).trans h⟩
    | cons d x =>
      obtain ⟨rfl, hrest⟩ := List.cons.inj h
      obtain ⟨x', y', rfl, rfl, hy'⟩ := ih hrest
      refine ⟨c :: x', y', rfl, unifyFeeds_cons fun hc hhead => ?_, hy'⟩
      exact hcons hc (by rw [List.head?_append, hhead]; rfl)

end Text

namespace Import

open AppBundle.Text

variable {cs front : List Char} {f : Found} {before : Option Char}

/-! ## Imports -/

theorem isBlank_of_unifyFeeds (h : ∀ c ∈ unifyFeeds cs, isBlank c = true) :
    ∀ c ∈ cs, isBlank c = true := by
  intro c hc
  rcases mem_unifyFeeds_or hc with hc | rfl
  · exact h c hc
  · decide

theorem isBlank_unifyFeeds (h : ∀ c ∈ cs, isBlank c = true) :
    ∀ c ∈ unifyFeeds cs, isBlank c = true :=
  fun c hc => h c (mem_of_mem_unifyFeeds hc)

/-- What an import binds is blank, or it is text with the word `from` and blanks behind it. -/
theorem isBindingText_iff :
    isBindingText cs = true ↔ (∀ c ∈ cs, isBlank c = true) ∨
      ∃ names blanks, cs = names ++ fromWord ++ blanks ∧ names ≠ [] ∧
        ∀ c ∈ blanks, isBlank c = true := by
  rw [isBindingText, Bool.or_eq_true, List.isEmpty_iff, trimEnd, trimRight,
    List.reverse_eq_nil_iff, List.dropWhile_eq_nil_iff, Bool.and_eq_true, endsIn,
    List.isSuffixOf_iff_suffix, decide_eq_true_eq]
  refine or_congr (by simp) ⟨?_, ?_⟩
  · rintro ⟨⟨names, hnames⟩, hlength⟩
    refine ⟨names, (cs.reverse.takeWhile isBlank).reverse, ?_, ?_, fun c hc => ?_⟩
    · rw [hnames, ← List.reverse_append, List.takeWhile_append_dropWhile, List.reverse_reverse]
    · rintro rfl
      rw [← hnames] at hlength
      exact absurd hlength (by decide)
    · exact List.mem_takeWhile_imp (List.mem_reverse.mp hc)
  · rintro ⟨names, blanks, rfl, hne, hblanks⟩
    have htext : (names ++ fromWord ++ blanks).reverse =
        blanks.reverse ++ 'm' :: ['o', 'r', 'f'] ++ names.reverse := by
      simp [fromWord]
    -- the last letter of the word is no blank, so only the blanks behind it are trimmed
    have hdrop : (names ++ fromWord ++ blanks).reverse.dropWhile isBlank =
        (names ++ fromWord).reverse := by
      rw [htext, List.append_assoc, List.cons_append,
        dropWhile_append_stop (fun c hc => hblanks c (List.mem_reverse.mp hc)) (by decide)]
      simp [fromWord]
    rw [hdrop, List.reverse_reverse]
    refine ⟨List.suffix_append _ _, ?_⟩
    have hpos := List.length_pos_iff.mpr hne
    simp only [List.length_append, fromWord, List.length_cons, List.length_nil]
    omega

theorem isBindingText_unifyFeeds : isBindingText (unifyFeeds cs) = isBindingText cs := by
  rw [Bool.eq_iff_iff, isBindingText_iff, isBindingText_iff]
  constructor
  · rintro (h | ⟨names, blanks, h, hne, hblanks⟩)
    · exact .inl (isBlank_of_unifyFeeds h)
    · rw [List.append_assoc] at h
      obtain ⟨names, y, rfl, rfl, hy⟩ := exists_of_unifyFeeds_append h (by simp [fromWord])
      obtain ⟨blanks, rfl, rfl⟩ := exists_of_unifyFeeds_eq (by decide) hy
      refine .inr ⟨names, blanks, (List.append_assoc _ _ _).symm, ?_, isBlank_of_unifyFeeds hblanks⟩
      rintro rfl
      exact hne rfl
  · rintro (h | ⟨names, blanks, rfl, hne, hblanks⟩)
    · exact .inl (isBlank_unifyFeeds h)
    · refine .inr ⟨unifyFeeds names, unifyFeeds blanks, ?_, ?_, isBlank_unifyFeeds hblanks⟩
      · have hword : unifyFeeds fromWord = fromWord := unifyFeeds_eq_self (by decide)
        rw [unifyFeeds_append (by simp [fromWord]), unifyFeeds_append (by simp [fromWord]), hword]
      · exact fun hnil => hne (unifyFeeds_eq_nil.mp hnil)

theorem WordFront.unifyFeeds (h : WordFront front) : WordFront (unifyFeeds front) := by
  obtain @⟨word, binding, hword, hbinding, htext⟩ := h
  have hlast : word.getLast? = some 't' := by rcases hword with rfl | rfl <;> rfl
  have hsame : Text.unifyFeeds word = word := by
    refine unifyFeeds_eq_self ?_
    rcases hword with rfl | rfl <;> decide
  rw [unifyFeeds_append (by simp [hlast]), hsame]
  exact .mk hword (fun c hc => hbinding c (mem_of_mem_unifyFeeds hc))
    (isBindingText_unifyFeeds.trans htext)

theorem WordFront.of_unifyFeeds (h : WordFront (Text.unifyFeeds front)) : WordFront front := by
  generalize htext : Text.unifyFeeds front = text at h
  obtain @⟨word, binding, hword, hbinding, hbound⟩ := h
  have hfeed : '\n' ∉ word := by rcases hword with rfl | rfl <;> decide
  obtain ⟨binding, rfl, rfl⟩ := exists_of_unifyFeeds_eq hfeed htext
  refine .mk hword (fun c hc => ?_) (isBindingText_unifyFeeds.symm.trans hbound)
  rcases mem_unifyFeeds_or hc with hc | rfl
  · exact hbinding c hc
  · decide

theorem ClauseFront.unifyFeeds (h : ClauseFront before front) :
    ClauseFront before (Text.unifyFeeds front) := by
  cases h with
  | atStart hstart hfront => exact .atStart hstart hfront.unifyFeeds
  | @behind c front hc hfront =>
    have hhead : front.head? ≠ some '\n' := by
      obtain ⟨d, rest, rfl, hd⟩ := hfront.head
      rcases hd with rfl | rfl <;> simp
    rw [unifyFeeds_cons fun _ => hhead]
    exact .behind hc hfront.unifyFeeds

/-- A carriage return and a line feed begin no clause. -/
theorem ClauseFront.of_unifyFeeds (h : ClauseFront before (Text.unifyFeeds front))
    (hfront : ∀ rest, front ≠ '\r' :: '\n' :: rest) : ClauseFront before front := by
  generalize htext : Text.unifyFeeds front = text at h
  cases h with
  | atStart hstart hword => exact .atStart hstart (htext ▸ hword : WordFront _).of_unifyFeeds
  | @behind c rest hc hword =>
    fun_cases Text.unifyFeeds front with
    | case1 => simp [Text.unifyFeeds] at htext
    | case2 rest => exact absurd rfl (hfront rest)
    | case3 d rest hne =>
      rw [unifyFeeds_cons (head?_ne_of_not_feed hne)] at htext
      obtain ⟨rfl, rfl⟩ := List.cons.inj htext
      exact .behind hc hword.of_unifyFeeds

theorem CallFront.unifyFeeds (h : CallFront before front) :
    CallFront before (Text.unifyFeeds front) := by
  obtain ⟨hbefore, hblanks, hinside⟩ := h
  have hword : Text.unifyFeeds importWord = importWord := unifyFeeds_eq_self (by decide)
  rw [unifyFeeds_append (by simp), unifyFeeds_append (by simp [importWord]), hword,
    unifyFeeds_cons (by simp)]
  exact .mk hbefore (isBlank_unifyFeeds hblanks) (isBlank_unifyFeeds hinside)

theorem CallFront.of_unifyFeeds (h : CallFront before (Text.unifyFeeds front)) :
    CallFront before front := by
  generalize htext : Text.unifyFeeds front = text at h
  obtain ⟨hbefore, hblanks, hinside⟩ := h
  rw [List.append_assoc] at htext
  obtain ⟨rest, rfl, hrest⟩ := exists_of_unifyFeeds_eq (by decide) htext
  obtain ⟨blanks, y, rfl, rfl, hy⟩ := exists_of_unifyFeeds_append hrest (by simp)
  obtain ⟨inside, rfl, rfl⟩ := exists_of_unifyFeeds_eq (x := ['(']) (by decide) hy
  have hmk := CallFront.mk hbefore (isBlank_of_unifyFeeds hblanks) (isBlank_of_unifyFeeds hinside)
  rwa [List.append_assoc] at hmk

/-- An import with its line ends made line feeds, in front of code with such line ends. -/
def Found.unified (f : Found) : Found :=
  ⟨Text.unifyFeeds f.front, f.specifier, Text.unifyFeeds f.back, Text.unifyFeeds f.rest⟩

theorem unifyFeeds_quote {q : Char} (hq : isQuote q = true) (x y : List Char) :
    Text.unifyFeeds (x ++ q :: y) = Text.unifyFeeds x ++ q :: Text.unifyFeeds y := by
  have hfeed : q ≠ '\n' := by
    rintro rfl
    exact absurd hq (by decide)
  have hreturn : q ≠ '\r' := by
    rintro rfl
    exact absurd hq (by decide)
  rw [unifyFeeds_append (by simp [hfeed]), unifyFeeds_cons (by simp [hreturn])]

theorem unifyFeeds_closing (blanks : List Char) :
    Text.unifyFeeds (blanks ++ [')']) = Text.unifyFeeds blanks ++ [')'] := by
  rw [unifyFeeds_append (by simp)]
  rfl

theorem Shape.unified (h : Shape before f) : Shape before f.unified := by
  cases h with
  | @clause front s q e rest hfront hq hs he =>
    have hmk := Shape.clause (Text.unifyFeeds rest) hfront.unifyFeeds hq hs he
    have hback : Text.unifyFeeds [e] = [e] := unifyFeeds_quote he [] []
    rw [Found.unified, Found.around, unifyFeeds_quote hq front [], hback]
    exact hmk
  | @call front s blanks q e rest hfront hq hs he hblanks =>
    have hmk := Shape.call (Text.unifyFeeds rest) hfront.unifyFeeds hq hs he
      (isBlank_unifyFeeds hblanks)
    have hback := unifyFeeds_quote he [] (blanks ++ [')'])
    rw [unifyFeeds_closing] at hback
    rw [Found.unified, Found.around, unifyFeeds_quote hq front []]
    show Shape before ⟨_, s, Text.unifyFeeds (e :: (blanks ++ [')'])), _⟩
    rw [show Text.unifyFeeds (e :: (blanks ++ [')'])) = e :: (Text.unifyFeeds blanks ++ [')'])
      from hback]
    exact hmk

theorem importAt?_unifyFeeds (h : importAt? before cs = some f) :
    importAt? before (Text.unifyFeeds cs) = some f.unified := by
  obtain ⟨rfl, hshape⟩ := importAt?_eq_some_iff.mp h
  refine importAt?_eq_some_iff.mpr ⟨?_, hshape.unified⟩
  have hinside : ∀ {s : List Char}, Content s → Text.unifyFeeds s = s :=
    fun hs => unifyFeeds_eq_self hs.feed_notMem
  cases hshape with
  | @clause front s q e rest hfront hq hs he =>
    have hback : Text.unifyFeeds [e] = [e] := unifyFeeds_quote he [] []
    simp [Found.text, Found.around, Found.unified, unifyFeeds_quote hq, unifyFeeds_quote he,
      hinside hs, hback]
  | @call front s blanks q e rest hfront hq hs he hblanks =>
    have hrest : Text.unifyFeeds (blanks ++ ')' :: rest) =
        Text.unifyFeeds blanks ++ ')' :: Text.unifyFeeds rest := by
      rw [unifyFeeds_append (by simp), unifyFeeds_cons (by simp)]
    have hback := unifyFeeds_quote he [] (blanks ++ [')'])
    simp only [List.nil_append] at hback
    simp [Found.text, Found.around, Found.unified, unifyFeeds_quote hq, unifyFeeds_quote he,
      hinside hs, hback, hrest, unifyFeeds_closing]

/-- Where an import stands behind line feeds, one stands in the code. -/
theorem exists_importAt?_of_unifyFeeds (h : importAt? before (Text.unifyFeeds cs) = some f)
    (hcs : ∀ rest, cs ≠ '\r' :: '\n' :: rest) : ∃ g, importAt? before cs = some g := by
  obtain ⟨htext, hshape⟩ := importAt?_eq_some_iff.mp h
  have hquote : ∀ {q : Char}, isQuote q = true → q ≠ '\n' := by
    rintro q hq rfl
    exact absurd hq (by decide)
  -- no line feed stands between the quotes, so the string is the same in the code
  have hstring : ∀ {q e : Char} {s : List Char}, isQuote q = true → Content s →
      isQuote e = true → '\n' ∉ q :: (s ++ [e]) := by
    intro q e s hq hs he
    simp [hs.feed_notMem, (hquote hq).symm, (hquote he).symm]
  cases hshape with
  | @clause front s q e rest hfront hq hs he =>
    have hsplit : Text.unifyFeeds cs = front ++ (q :: (s ++ [e]) ++ rest) := by
      simp [htext, Found.text, Found.around]
    obtain ⟨front, y, rfl, rfl, hy⟩ :=
      exists_of_unifyFeeds_append hsplit (by simpa using hquote hq)
    obtain ⟨rest, rfl, -⟩ := exists_of_unifyFeeds_eq (hstring hq hs he) hy
    have hclause := hfront.of_unifyFeeds fun more heq => hcs _ (by rw [heq]; rfl)
    refine ⟨_, importAt?_eq_some_iff.mpr ⟨?_, .clause rest hclause hq hs he⟩⟩
    simp [Found.text, Found.around]
  | @call front s blanks q e rest hfront hq hs he hblanks =>
    have hsplit : Text.unifyFeeds cs = front ++ (q :: (s ++ [e]) ++ (blanks ++ ')' :: rest)) := by
      simp [htext, Found.text, Found.around]
    obtain ⟨front, y, rfl, rfl, hy⟩ :=
      exists_of_unifyFeeds_append hsplit (by simpa using hquote hq)
    obtain ⟨z, rfl, hz⟩ := exists_of_unifyFeeds_eq (hstring hq hs he) hy
    obtain ⟨blanks, z, rfl, rfl, hclose⟩ := exists_of_unifyFeeds_append hz (by simp)
    obtain ⟨rest, rfl, -⟩ := exists_of_unifyFeeds_eq (x := [')']) (by decide) hclose
    refine ⟨_, importAt?_eq_some_iff.mpr ⟨?_, .call rest hfront.of_unifyFeeds hq hs he
      (isBlank_of_unifyFeeds hblanks)⟩⟩
    simp [Found.text, Found.around]

/-! ## Chunks -/

/-- Chunks without the carriage returns in front of line feeds. -/
def unifyChunks : List Chunk → List Chunk
  | [] => []
  | .plain '\r' :: .plain '\n' :: rest => .plain '\n' :: unifyChunks rest
  | c :: rest => c :: unifyChunks rest

theorem unifyChunks_plain_cons {c : Char} {rest : List Chunk}
    (h : c = '\r' → rest.head? ≠ some (.plain '\n')) :
    unifyChunks (.plain c :: rest) = .plain c :: unifyChunks rest := by
  rw [unifyChunks]
  rintro more heq rfl
  exact h (Chunk.plain.inj heq) rfl

theorem unifyChunks_specifier_cons (s : List Char) (rest : List Chunk) :
    unifyChunks (.specifier s :: rest) = .specifier s :: unifyChunks rest := by
  rw [unifyChunks]
  rintro more heq
  exact absurd heq (by simp)

theorem unifyChunks_plain_append {x : List Char} {rest : List Chunk}
    (h : x.getLast? = some '\r' → rest.head? ≠ some (.plain '\n')) :
    unifyChunks (x.map .plain ++ rest) = (Text.unifyFeeds x).map .plain ++ unifyChunks rest := by
  fun_induction Text.unifyFeeds x with
  | case1 => rfl
  | case2 x ih =>
    have hlast : x.getLast? = some '\r' → rest.head? ≠ some (.plain '\n') := fun hlast =>
      h (by rw [List.getLast?_cons, List.getLast?_cons, hlast]; rfl)
    rw [List.map_cons, List.map_cons, List.cons_append, List.cons_append, unifyChunks, ih hlast]
    rfl
  | case3 c x hne ih =>
    have hlast : x.getLast? = some '\r' → rest.head? ≠ some (.plain '\n') := fun hlast =>
      h (by rw [List.getLast?_cons, hlast]; rfl)
    have hhead : c = '\r' → (x.map Chunk.plain ++ rest).head? ≠ some (.plain '\n') := by
      rintro rfl
      cases x with
      | nil => exact h rfl
      | cons d x => simpa using head?_ne_of_not_feed hne rfl
    rw [List.map_cons, List.cons_append, unifyChunks_plain_cons hhead, ih hlast]
    rfl

theorem unifyChunks_append_specifier (cs : List Chunk) (s : List Char) (rest : List Chunk) :
    unifyChunks (cs ++ .specifier s :: rest) =
      unifyChunks cs ++ .specifier s :: unifyChunks rest := by
  fun_induction unifyChunks cs with
  | case1 => exact unifyChunks_specifier_cons s rest
  | case2 cs ih =>
    rw [List.cons_append, List.cons_append, unifyChunks, ih]
    rfl
  | case3 c cs hne ih =>
    rw [List.cons_append, List.cons_append, ← ih, unifyChunks]
    rintro more rfl heq
    cases cs with
    | nil => exact absurd heq (by simp)
    | cons d cs =>
      obtain ⟨rfl, -⟩ := List.cons.inj heq
      exact hne cs rfl rfl

theorem specifiers_unifyChunks (cs : List Chunk) : specifiers (unifyChunks cs) = specifiers cs := by
  fun_induction unifyChunks cs with
  | case1 => rfl
  | case2 rest ih => simp [ih]
  | case3 c rest hne ih => cases c <;> simp [ih]

/-- The first chunk begins the code. -/
theorem head?_chunksBehind (before : Option Char) (cs : List Char) :
    (chunksBehind before cs).head? = cs.head?.map .plain := by
  cases hat : importAt? before cs with
  | some f =>
    obtain ⟨d, front, hfront⟩ := List.exists_cons_of_ne_nil (front_ne_nil_of_importAt? hat)
    rw [chunksBehind_of_importAt? hat, eq_append_of_importAt? hat, hfront]
    rfl
  | none =>
    cases cs with
    | nil => rfl
    | cons c cs => rw [chunksBehind_of_none hat]; rfl

/-- Code with every line end made a line feed has the chunks of the code, without the carriage
returns that go. -/
theorem chunksBehind_unifyFeeds (before : Option Char) (cs : List Char) :
    chunksBehind before (Text.unifyFeeds cs) = unifyChunks (chunksBehind before cs) := by
  induction before, cs using scan_induction with
  | nil before => rfl
  | plain before c cs hnone ih =>
    by_cases hfeed : c = '\r' ∧ cs.head? = some '\n'
    · obtain ⟨rfl, hhead⟩ := hfeed
      obtain ⟨cs, rfl⟩ := List.head?_eq_some_iff.mp hhead
      -- what stands in front of a line feed does not matter to the scan
      rw [unifyFeeds_cons (by simp), chunksBehind_feed, chunksBehind_feed,
        unifyChunks_plain_cons (by simp)] at ih
      rw [chunksBehind_of_none hnone, chunksBehind_feed, Text.unifyFeeds,
        chunksBehind_feed, ih]
      rfl
    · rw [not_and] at hfeed
      rw [unifyFeeds_cons hfeed, chunksBehind_of_none hnone, unifyChunks_plain_cons, ← ih,
        chunksBehind_of_none]
      · rw [Option.eq_none_iff_forall_ne_some]
        intro f hf
        rw [← unifyFeeds_cons hfeed] at hf
        obtain ⟨g, hg⟩ := exists_importAt?_of_unifyFeeds hf fun rest heq => by
          obtain ⟨hc, rfl⟩ := List.cons.inj heq
          exact hfeed hc rfl
        simp [hnone] at hg
      · intro hc hhead
        rw [head?_chunksBehind] at hhead
        obtain ⟨d, hd, heq⟩ := Option.map_eq_some_iff.mp hhead
        rw [Chunk.plain.inj heq] at hd
        exact hfeed hc hd
  | found before cs f hat ih =>
    have hback : f.back.getLast? ≠ some '\r' := by
      obtain ⟨d, hlast, hd⟩ := (importAt?_eq_some_iff.mp hat).2.last
      obtain ⟨e, he⟩ := Option.isSome_iff_exists.mp
        (List.getLast?_isSome.mpr (back_ne_nil_of_importAt? hat))
      rw [Found.text, List.getLast?_append, he, Option.some_or] at hlast
      rw [he, hlast]
      rintro heq
      rw [Option.some.inj heq] at hd
      exact absurd hd (by decide)
    rw [chunksBehind_of_importAt? hat, chunksBehind_of_importAt? (importAt?_unifyFeeds hat),
      unifyChunks_plain_append (by simp), unifyChunks_specifier_cons,
      unifyChunks_plain_append fun heq => absurd heq hback, ← ih]
    simp only [Found.unified, getLast?_unifyFeeds]

theorem chunks_unifyFeeds (code : List Char) :
    chunks (Text.unifyFeeds code) = unifyChunks (chunks code) :=
  chunksBehind_unifyFeeds none code

/-- The same specifiers are found whatever ends the lines. -/
theorem specifiers_chunks_unifyFeeds (code : List Char) :
    specifiers (chunks (Text.unifyFeeds code)) = specifiers (chunks code) := by
  rw [chunks_unifyFeeds, specifiers_unifyChunks]

end Import

end AppBundle
