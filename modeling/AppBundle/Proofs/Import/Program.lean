import AppBundle.Proofs.Import.Feeds
import AppBundle.Proofs.Text.Bytes

/-!
# Programs of imports

A grammar of import statements: the forms in which code names the modules that it imports or passes
on, with blanks between their parts. Scanning a program of such statements finds exactly the
specifiers that were written into it, each where it was written (`scan_programText`).

What is bound may contain the words of an import, and the word `from` in particular. The scan does
not stop at any of them: it takes all characters that may be bound, up to the quote.
-/

namespace AppBundle

namespace Import

open AppBundle.Text

/-! ## Parts of statements -/

/-- A character of a name: an ASCII letter, a digit, an underscore or a dollar sign. -/
def isNameChar (c : Char) : Bool := isAsciiWord c || c == '$'

/-- A name. -/
structure Name where
  chars : List Char
  ne_nil : chars ≠ []
  inside : ∀ c ∈ chars, isNameChar c = true

/-- Blanks, line feeds among them, or nothing. -/
structure Space where
  chars : List Char
  blank : ∀ c ∈ chars, isBlank c = true

/-- At least one blank. -/
structure Gap extends Space where
  ne_nil : chars ≠ []

/-- What is written between the quotes of an import, and the quotes. -/
structure Specifier where
  quote : Char
  chars : List Char
  isQuote : isQuote quote = true
  content : Content chars

/-- A name in braces. -/
inductive Item where
  /-- `A` -/
  | plain (name : Name)
  /-- `A as B` -/
  | renamed (name : Name) (before behind : Gap) (other : Name)

/-- A name in braces with the blanks around it. -/
structure Slot where
  before : Space
  item : Item
  behind : Space

/-- `{ A, B as C, ... }`, with or without a comma behind the last name. -/
structure Braces where
  first : Slot
  more : List Slot
  comma : Option Space

/-- What an import binds, with the blanks around it. -/
inductive Binding where
  /-- `D` -/
  | name (before : Gap) (name : Name) (behind : Gap)
  /-- `* as N` -/
  | all (before between : Space) (gap : Gap) (name : Name) (behind : Gap)
  /-- `{ A, B as C, ... }` -/
  | names (before : Space) (braces : Braces) (behind : Space)
  /-- `D, { A, ... }` -/
  | nameAndNames (before : Gap) (name : Name) (beforeComma behindComma : Space) (braces : Braces)
      (behind : Space)

/-- What an export passes on, with the blanks around it. -/
inductive Passage where
  /-- `*` -/
  | all (before behind : Space)
  /-- `{ A, B as C, ... }` -/
  | names (before : Space) (braces : Braces) (behind : Space)

/-- A statement around its specifier. -/
inductive Statement where
  /-- `import Q` -/
  | bare (gap : Space)
  /-- `import ... from Q` -/
  | binding (binding : Binding) (gap : Space)
  /-- `export ... from Q` -/
  | passage (passage : Passage) (gap : Space)
  /-- `await import(Q)` -/
  | call (gap : Gap) (before inside behind : Space)

/-- A line of a program. -/
structure Line where
  indent : Space
  statement : Statement
  specifier : Specifier
  semicolon : Bool

/-! ## Texts -/

/-- The word between a name and what it is renamed to. -/
def asWord : List Char := ['a', 's']

/-- The word before a call. -/
def awaitWord : List Char := ['a', 'w', 'a', 'i', 't']

def Item.text : Item → List Char
  | .plain name => name.chars
  | .renamed name before behind other =>
    name.chars ++ before.chars ++ asWord ++ behind.chars ++ other.chars

def Slot.text (s : Slot) : List Char := s.before.chars ++ s.item.text ++ s.behind.chars

def Braces.text (b : Braces) : List Char :=
  '{' :: b.first.text ++ b.more.flatMap (fun s => ',' :: s.text)
    ++ (match b.comma with
      | some space => ',' :: space.chars
      | none => [])
    ++ ['}']

def Binding.text : Binding → List Char
  | .name before a behind => before.chars ++ a.chars ++ behind.chars
  | .all before between gap a behind =>
    before.chars ++ '*' :: between.chars ++ asWord ++ gap.chars ++ a.chars ++ behind.chars
  | .names before braces behind => before.chars ++ braces.text ++ behind.chars
  | .nameAndNames before a beforeComma behindComma braces behind =>
    before.chars ++ a.chars ++ beforeComma.chars ++ ',' :: behindComma.chars ++ braces.text
      ++ behind.chars

def Passage.text : Passage → List Char
  | .all before behind => before.chars ++ '*' :: behind.chars
  | .names before braces behind => before.chars ++ braces.text ++ behind.chars

/-- The text in front of the quote. -/
def Statement.front : Statement → List Char
  | .bare gap => importWord ++ gap.chars
  | .binding b gap => importWord ++ b.text ++ fromWord ++ gap.chars
  | .passage p gap => exportWord ++ p.text ++ fromWord ++ gap.chars
  | .call gap before inside _ =>
    awaitWord ++ gap.chars ++ importWord ++ before.chars ++ '(' :: inside.chars

/-- The text behind the other quote. -/
def Statement.back : Statement → List Char
  | .call _ _ _ behind => behind.chars ++ [')']
  | _ => []

namespace Line

/-- The text of a line up to its specifier. -/
def front (l : Line) : List Char :=
  l.indent.chars ++ l.statement.front ++ [l.specifier.quote]

/-- The text of a line from the end of its specifier on. -/
def back (l : Line) : List Char :=
  l.specifier.quote :: l.statement.back ++ if l.semicolon then [';'] else []

def text (l : Line) : List Char := l.front ++ l.specifier.chars ++ l.back

/-- The import of a line behind a text. -/
def importBehind (before : List Char) (l : Line) : Import :=
  let start := byteLength (before ++ l.front)
  ⟨String.ofList l.specifier.chars, start, start + byteLength l.specifier.chars,
    countFeeds (before ++ l.front)⟩

end Line

/-- The text of a program: its lines with line feeds between them, and possibly one behind the
last. -/
def programText (ended : Bool) : List Line → List Char
  | [] => []
  | [l] => l.text ++ if ended then ['\n'] else []
  | l :: more => l.text ++ '\n' :: programText ended more

/-- The imports of lines behind a text, one for each line. -/
def importsBehind : List Char → List Line → List Import
  | _, [] => []
  | before, l :: more => l.importBehind before :: importsBehind (before ++ l.text ++ ['\n']) more

/-! ## What may be bound -/

variable {cs ds x y : List Char} {before : Option Char}

theorem toNat_lt_of_isAsciiWord {c : Char} (h : isAsciiWord c = true) : c.toNat < 128 := by
  have hlarge : ∀ {x : Char}, x.toNat < 128 → c.val ≤ x.val → c.toNat < 128 :=
    fun hx hle => lt_of_le_of_lt (UInt32.le_iff_toNat_le.mp hle) hx
  simp only [isAsciiWord, Char.isAlphanum, Url.isAlpha_iff, Url.isUpper_iff, Url.isLower_iff,
    Char.isDigit, Bool.or_eq_true, Bool.and_eq_true, decide_eq_true_eq, beq_iff_eq] at h
  rcases h with ((⟨-, h⟩ | ⟨-, h⟩) | ⟨-, h⟩) | rfl
  · exact hlarge (x := 'Z') (by decide) h
  · exact hlarge (x := 'z') (by decide) h
  · exact hlarge (x := '9') (by decide) h
  · decide

theorem isBinding_of_isNameChar {c : Char} (h : isNameChar c = true) : isBinding c = true := by
  unfold isNameChar at h
  rw [Bool.or_eq_true, beq_iff_eq] at h
  rcases h with hword | rfl
  · have hisWord : isWord c = true := by
      unfold isWord
      rw [if_pos (toNat_lt_of_isAsciiWord hword)]
      exact hword
    simp [isBinding, hisWord]
  · decide

/-- Text of characters that may be bound. -/
def Bound (cs : List Char) : Prop := ∀ c ∈ cs, isBinding c = true

theorem bound_append : Bound (cs ++ ds) ↔ Bound cs ∧ Bound ds := List.forall_mem_append

theorem bound_cons {c : Char} : Bound (c :: cs) ↔ isBinding c = true ∧ Bound cs :=
  List.forall_mem_cons

theorem Bound.ofChars (h : cs.all isBinding = true) : Bound cs := List.all_eq_true.mp h

theorem Name.bound (a : Name) : Bound a.chars := by
  intro c hc
  exact isBinding_of_isNameChar (a.inside c hc)

theorem Space.bound (s : Space) : Bound s.chars := by
  intro c hc
  simp [isBinding, s.blank c hc]

theorem bound_asWord : Bound asWord := .ofChars (by decide)

theorem Slot.bound (s : Slot) : Bound s.text := by
  have hitem : Bound s.item.text := by
    cases s.item with
    | plain a => exact a.bound
    | renamed a before behind other =>
      simp only [Item.text, bound_append]
      exact ⟨⟨⟨⟨a.bound, before.bound⟩, bound_asWord⟩, behind.bound⟩, other.bound⟩
  simp only [Slot.text, bound_append]
  exact ⟨⟨s.before.bound, hitem⟩, s.behind.bound⟩

theorem Braces.bound (b : Braces) : Bound b.text := by
  have hcomma : isBinding ',' = true := by decide
  have hmore : Bound (b.more.flatMap fun s => ',' :: s.text) := by
    intro c hc
    obtain ⟨s, -, hc⟩ := List.mem_flatMap.mp hc
    exact bound_cons.mpr ⟨hcomma, s.bound⟩ c hc
  have hlast : Bound (match b.comma with
      | some space => ',' :: space.chars
      | none => []) := by
    cases b.comma with
    | none => exact .ofChars rfl
    | some space => exact bound_cons.mpr ⟨hcomma, space.bound⟩
  have hclose : Bound ['}'] := .ofChars (by decide)
  simp only [Braces.text, List.cons_append]
  exact bound_cons.mpr ⟨by decide, bound_append.mpr
    ⟨bound_append.mpr ⟨bound_append.mpr ⟨b.first.bound, hmore⟩, hlast⟩, hclose⟩⟩

theorem Binding.bound (b : Binding) : Bound b.text := by
  have hstar : isBinding '*' = true := by decide
  have hcomma : isBinding ',' = true := by decide
  cases b with
  | name before a behind =>
    simp only [Binding.text, bound_append]
    exact ⟨⟨before.bound, a.bound⟩, behind.bound⟩
  | all before between gap a behind =>
    simp only [Binding.text, bound_append, bound_cons]
    exact ⟨⟨⟨⟨⟨before.bound, hstar, between.bound⟩, bound_asWord⟩, gap.bound⟩, a.bound⟩,
      behind.bound⟩
  | names before braces behind =>
    simp only [Binding.text, bound_append]
    exact ⟨⟨before.bound, braces.bound⟩, behind.bound⟩
  | nameAndNames before a beforeComma behindComma braces behind =>
    simp only [Binding.text, bound_append, bound_cons]
    exact ⟨⟨⟨⟨⟨before.bound, a.bound⟩, beforeComma.bound⟩, hcomma, behindComma.bound⟩,
      braces.bound⟩, behind.bound⟩

theorem Binding.ne_nil (b : Binding) : b.text ≠ [] := by
  cases b with
  | name before a behind => simp [Binding.text, a.ne_nil]
  | all before between gap a behind => simp [Binding.text]
  | names before braces behind => simp [Binding.text, Braces.text]
  | nameAndNames before a beforeComma behindComma braces behind => simp [Binding.text]

theorem Passage.bound (p : Passage) : Bound p.text := by
  have hstar : isBinding '*' = true := by decide
  cases p with
  | all before behind =>
    simp only [Passage.text, bound_append, bound_cons]
    exact ⟨before.bound, hstar, behind.bound⟩
  | names before braces behind =>
    simp only [Passage.text, bound_append]
    exact ⟨⟨before.bound, braces.bound⟩, behind.bound⟩

theorem Passage.ne_nil (p : Passage) : p.text ≠ [] := by
  cases p with
  | all before behind => simp [Passage.text]
  | names before braces behind => simp [Passage.text, Braces.text]

/-! ## Scanning a line -/

/-- What is bound may hold the word `from` too: the last one is the one that counts. -/
theorem wordFront_from {word : List Char} (hword : word = importWord ∨ word = exportWord)
    (hbound : Bound cs) (hne : cs ≠ []) (gap : Space) :
    WordFront (word ++ cs ++ fromWord ++ gap.chars) := by
  have hall : Bound (cs ++ fromWord ++ gap.chars) :=
    bound_append.mpr ⟨bound_append.mpr ⟨hbound, .ofChars (by decide)⟩, gap.bound⟩
  have htext : isBindingText (cs ++ fromWord ++ gap.chars) = true :=
    isBindingText_iff.mpr (.inr ⟨cs, gap.chars, rfl, hne, gap.blank⟩)
  have hmk := WordFront.mk hword hall htext
  simpa only [List.append_assoc] using hmk

/-- A statement with another word than `await` in front of it is a clause. -/
theorem Statement.wordFront {s : Statement} (h : s.back = []) : WordFront s.front := by
  cases s with
  | bare gap => exact .mk (.inl rfl) gap.bound (isBindingText_iff.mpr (.inl gap.blank))
  | binding b gap => exact wordFront_from (.inl rfl) b.bound b.ne_nil gap
  | passage p gap => exact wordFront_from (.inr rfl) p.bound p.ne_nil gap
  | call gap before inside behind => simp [Statement.back] at h

theorem chunksBehind_space (s : Space) (y : List Char) :
    chunksBehind none (s.chars ++ y) = s.chars.map .plain ++ chunksBehind none y := by
  obtain ⟨cs, hcs⟩ := s
  induction cs with
  | nil => rfl
  | cons c cs ih =>
    obtain ⟨hc, hcs⟩ := List.forall_mem_cons.mp hcs
    have hrest := ih hcs
    dsimp only at hrest
    rw [List.cons_append, chunksBehind_break (.inr hc), hrest]
    rfl

/-- Blanks end a word, so behind them scanning begins anew. -/
theorem chunksBehind_gap (before : Option Char) (gap : Gap) (y : List Char) :
    chunksBehind before (gap.chars ++ y) = gap.chars.map .plain ++ chunksBehind none y := by
  obtain ⟨⟨cs, hcs⟩, hne⟩ := gap
  obtain ⟨c, cs, rfl⟩ := List.exists_cons_of_ne_nil hne
  obtain ⟨hc, hrest⟩ := List.forall_mem_cons.mp hcs
  have hspace := chunksBehind_space ⟨cs, hrest⟩ y
  dsimp only at hspace
  show chunksBehind before (c :: (cs ++ y)) = _
  rw [chunksBehind_break (.inr hc), hspace]
  rfl

/-- No import begins in the word before a call. -/
theorem chunksBehind_awaitWord (y : List Char) :
    chunksBehind none (awaitWord ++ y) = awaitWord.map .plain ++ chunksBehind (some 't') y := by
  show chunksBehind none ('a' :: 'w' :: 'a' :: 'i' :: 't' :: y) = _
  rw [chunksBehind_of_none rfl, chunksBehind_of_none rfl, chunksBehind_of_none rfl,
    chunksBehind_of_none rfl, chunksBehind_of_none rfl]
  rfl

/-- Where an import stands, it is found, and scanning goes on behind it. -/
theorem Shape.chunksBehind_text {f : Found} (h : Shape before f) :
    chunksBehind before (f.text ++ f.rest) = f.front.map .plain ++ .specifier f.specifier ::
      (f.back.map .plain ++ chunksBehind f.back.getLast? f.rest) :=
  chunksBehind_of_importAt? (importAt?_eq_some_iff.mpr ⟨rfl, h⟩)

/-- A statement is scanned as the text in front of its specifier, the specifier, and the text behind
it, whatever follows. -/
theorem chunksBehind_statement (s : Statement) (q : Specifier) (y : List Char) :
    ∃ last, chunksBehind none (s.front ++ q.quote :: (q.chars ++ q.quote :: (s.back ++ y))) =
      (s.front ++ [q.quote]).map .plain ++ .specifier q.chars ::
        ((q.quote :: s.back).map .plain ++ chunksBehind last y) := by
  by_cases hback : s.back = []
  · -- only a call has text behind its specifier
    have hshape : Shape none (.around s.front q.quote q.chars [q.quote] y) :=
      .clause y (.atStart (.inl rfl) (Statement.wordFront hback)) q.isQuote q.content q.isQuote
    have hchunks := hshape.chunksBehind_text
    simp only [Found.text, Found.around, List.append_assoc, List.singleton_append] at hchunks
    rw [hback, List.nil_append]
    exact ⟨_, hchunks⟩
  · cases s with
    | bare gap => exact absurd rfl hback
    | binding b gap => exact absurd rfl hback
    | passage p gap => exact absurd rfl hback
    | call gap inner inside behind =>
      have hfront : CallFront none (importWord ++ inner.chars ++ '(' :: inside.chars) :=
        .mk rfl inner.blank inside.blank
      have hshape := Shape.call y hfront q.isQuote q.content q.isQuote behind.blank
      have hchunks := hshape.chunksBehind_text
      simp only [Found.text, Found.around, List.append_assoc, List.cons_append, List.nil_append]
        at hchunks
      simp only [Statement.front, Statement.back, List.append_assoc, List.cons_append,
        List.nil_append]
      rw [chunksBehind_awaitWord, chunksBehind_gap, hchunks]
      refine ⟨(q.quote :: (behind.chars ++ [')'])).getLast?, ?_⟩
      simp only [List.map_append, List.append_assoc]

/-- Behind a statement comes nothing or a line feed. -/
def EndsLine (y : List Char) : Prop := y = [] ∨ ∃ z, y = '\n' :: z

theorem chunksBehind_endsLine (hy : EndsLine y) (before : Option Char) :
    chunksBehind before y = chunksBehind none y := by
  rcases hy with rfl | ⟨z, rfl⟩
  · rfl
  · rw [chunksBehind_feed, chunksBehind_feed]

theorem chunksBehind_line (l : Line) (hy : EndsLine y) :
    chunksBehind none (l.text ++ y) = l.front.map .plain ++ .specifier l.specifier.chars ::
      (l.back.map .plain ++ chunksBehind none y) := by
  have htext : l.text ++ y = l.indent.chars ++ (l.statement.front ++ l.specifier.quote ::
      (l.specifier.chars ++ l.specifier.quote :: (l.statement.back ++
        ((if l.semicolon then [';'] else []) ++ y)))) := by
    simp [Line.text, Line.front, Line.back]
  have hend : ∀ before, chunksBehind before ((if l.semicolon then [';'] else []) ++ y) =
      (if l.semicolon then [';'] else []).map .plain ++ chunksBehind none y := by
    intro before
    by_cases hsemicolon : l.semicolon = true
    · rw [if_pos hsemicolon]
      exact chunksBehind_break (.inl rfl) before y
    · rw [if_neg hsemicolon]
      exact chunksBehind_endsLine hy before
  obtain ⟨last, hstatement⟩ := chunksBehind_statement l.statement l.specifier
    ((if l.semicolon then [';'] else []) ++ y)
  rw [htext, chunksBehind_space, hstatement, hend]
  simp only [Line.front, Line.back, List.map_append, List.map_cons, List.append_assoc,
    List.cons_append]

/-! ## Scanning a program -/

/-- Plain text is passed over. -/
theorem locate_plain (before cs : List Char) (chunks : List Chunk) :
    locate (byteLength before) (countFeeds before) (cs.map .plain ++ chunks) =
      locate (byteLength (before ++ cs)) (countFeeds (before ++ cs)) chunks := by
  induction cs generalizing before with
  | nil => rw [List.append_nil]; rfl
  | cons c cs ih =>
    have hlength : byteLength (before ++ [c]) = byteLength before + c.utf8Size := by
      rw [byteLength_append, byteLength, byteLength_nil, Nat.add_zero]
    have hfeeds : countFeeds (before ++ [c]) =
        if c = '\n' then countFeeds before + 1 else countFeeds before := by
      by_cases hc : c = '\n' <;> simp [countFeeds, hc]
    have hrest := ih (before ++ [c])
    rw [hlength, hfeeds, List.append_assoc] at hrest
    exact hrest

/-- So is a line, up to its import. -/
theorem locate_line (before : List Char) (l : Line) (chunks : List Chunk) :
    locate (byteLength before) (countFeeds before) (l.front.map .plain ++
        .specifier l.specifier.chars :: (l.back.map .plain ++ chunks)) =
      l.importBehind before ::
        locate (byteLength (before ++ l.text)) (countFeeds (before ++ l.text)) chunks := by
  have hfeeds : countFeeds (before ++ l.front) =
      countFeeds (before ++ l.front ++ l.specifier.chars) := by
    have hnone : l.specifier.chars.count '\n' = 0 :=
      List.count_eq_zero.mpr l.specifier.content.feed_notMem
    simp only [countFeeds, List.count_append, hnone, Nat.add_zero]
  have hlength : byteLength (before ++ l.front) + byteLength l.specifier.chars =
      byteLength (before ++ l.front ++ l.specifier.chars) := (byteLength_append _ _).symm
  have htext : before ++ l.text = before ++ l.front ++ l.specifier.chars ++ l.back := by
    simp [Line.text]
  rw [locate_plain, locate, hlength, Line.importBehind, hlength, htext, ← locate_plain]
  rw [hfeeds]

/-- Behind the last line there is a line feed or nothing. -/
theorem chunksBehind_lastLine (ended : Bool) (l : Line) :
    chunksBehind none (programText ended [l]) = l.front.map .plain ++
      .specifier l.specifier.chars ::
        (l.back.map .plain ++ (if ended then ['\n'] else []).map .plain) := by
  rw [programText]
  by_cases h : ended = true
  · rw [if_pos h, chunksBehind_line l (.inr ⟨[], rfl⟩), chunksBehind_feed]
    rfl
  · rw [if_neg h, chunksBehind_line l (.inl rfl)]
    rfl

/-- The specifiers of a program are found line by line, wherever it begins. -/
theorem locate_programText (ended : Bool) (ls : List Line) (before : List Char) :
    locate (byteLength before) (countFeeds before) (chunksBehind none (programText ended ls)) =
      importsBehind before ls := by
  induction ls generalizing before with
  | nil => rfl
  | cons l more ih =>
    cases more with
    | nil =>
      rw [chunksBehind_lastLine, locate_line, ← List.append_nil (List.map _ _), locate_plain]
      rfl
    | cons l' more =>
      have hfeed : ∀ cs : List Chunk, Chunk.plain '\n' :: cs = ['\n'].map .plain ++ cs :=
        fun cs => rfl
      rw [programText, chunksBehind_line l (.inr ⟨_, rfl⟩), locate_line, chunksBehind_feed, hfeed,
        locate_plain, ih]
      · rfl
      · simp

/-- Scanning finds the specifiers that are written into a program and nothing else: one for each
line, in order, with the range of bytes and the line where it stands. -/
theorem scan_programText (ended : Bool) (ls : List Line) :
    scan (String.ofList (programText ended ls)) = importsBehind [] ls := by
  have htext : (String.ofList (programText ended ls)).toList = programText ended ls :=
    String.toList_ofList
  rw [scan, htext, chunks_eq]
  exact locate_programText ended ls []

/-- What is bound may be named `from`, on a line of its own too. -/
example :
    let space : Gap := ⟨⟨[' '], List.all_eq_true.mp (by decide)⟩, by decide⟩
    let feed : Gap := ⟨⟨['\n'], List.all_eq_true.mp (by decide)⟩, by decide⟩
    let name : Name := ⟨fromWord, by decide, List.all_eq_true.mp (by decide)⟩
    let braces : Braces := ⟨⟨feed.toSpace, .renamed name space space name, feed.toSpace⟩, [], none⟩
    let binding := Binding.nameAndNames space name space.toSpace space.toSpace braces space.toSpace
    (Statement.binding binding space.toSpace).front =
      "import from , \x7b\nfrom as from\n\x7d from ".toList := by
  decide

end Import

end AppBundle
