import AppBundle.Proofs.Import.Resolve

/-!
# Scanning code part by part

An import is found by its shape: what the text is behind it does not matter
(`importAt?_eq_some_iff`). So code falls apart where no import goes over the border
(`chunksBehind_append`): behind a text that is barred, in front of text without quotes, and in front
of text that no import gets through. Behind a blank or a semicolon, scanning begins anew
(`chunksBehind_break`).
-/

namespace AppBundle

namespace Import

open AppBundle.Text

variable {cs front rest x y : List Char} {f : Found} {before : Option Char} {c : Char}

/-! ## The shape of an import -/

/-- The text of an import. -/
def Found.text (f : Found) : List Char := f.front ++ f.specifier ++ f.back

/-- What an import looks like behind a character. -/
inductive Shape (before : Option Char) : Found → Prop
  | clause {front s : List Char} {q e : Char} (rest : List Char) (hfront : ClauseFront before front)
      (hq : isQuote q = true) (hs : Content s) (he : isQuote e = true) :
      Shape before (.around front q s [e] rest)
  | call {front s blanks : List Char} {q e : Char} (rest : List Char)
      (hfront : CallFront before front) (hq : isQuote q = true) (hs : Content s)
      (he : isQuote e = true) (hblanks : ∀ c ∈ blanks, isBlank c = true) :
      Shape before (.around front q s (e :: (blanks ++ [')'])) rest)

theorem Shape.of_rest (h : Shape before f) (rest : List Char) :
    Shape before { f with rest } := by
  cases h with
  | clause _ hfront hq hs he => exact .clause rest hfront hq hs he
  | call _ hfront hq hs he hblanks => exact .call rest hfront hq hs he hblanks

theorem WordFront.paren_notMem (h : WordFront front) : '(' ∉ front := by
  obtain ⟨hword, hbinding, -⟩ := h
  rw [List.mem_append, not_or]
  constructor
  · rcases hword with rfl | rfl <;> decide
  · exact fun hmem => absurd (hbinding _ hmem) (by decide)

theorem ClauseFront.paren_notMem (h : ClauseFront before front) : '(' ∉ front := by
  cases h with
  | atStart _ hfront => exact hfront.paren_notMem
  | behind hc hfront =>
    rw [List.mem_cons, not_or]
    refine ⟨?_, hfront.paren_notMem⟩
    rintro rfl
    exact absurd hc (by decide)

theorem CallFront.paren_mem (h : CallFront before front) : '(' ∈ front := by
  obtain ⟨-, -, -⟩ := h
  simp

/-- Text without quotes ends at the first quote. -/
theorem eq_of_unquoted {front' : List Char} {q q' : Char} {r r' : List Char}
    (hfront : Unquoted front) (hfront' : Unquoted front') (hq : isQuote q = true)
    (hq' : isQuote q' = true) (h : front ++ q :: r = front' ++ q' :: r') : front = front' := by
  have htake : ∀ {x : List Char} {c : Char}, Unquoted x → isQuote c = true → ∀ rest,
      (x ++ c :: rest).takeWhile (!isQuote ·) = x := by
    intro x c hx hc rest
    exact takeWhile_append_stop (fun d hd => by simp [hx d hd]) (by simp [hc]) rest
  rw [← htake hfront hq r, h, htake hfront' hq']

theorem importAt?_eq_some_iff :
    importAt? before cs = some f ↔ cs = f.text ++ f.rest ∧ Shape before f := by
  constructor
  · intro h
    refine ⟨eq_append_of_importAt? h, ?_⟩
    rw [importAt?, Option.orElse_eq_orElse, Option.orElse_eq_or, Option.or_eq_some_iff] at h
    rcases h with h | ⟨-, h⟩
    · obtain ⟨front, q, s, e, r, -, hfront, hq, hs, he, rfl⟩ := clauseAt?_eq_some_iff.mp h
      exact .clause r hfront hq hs he
    · obtain ⟨front, q, s, e, blanks, r, -, hfront, hq, hs, he, hblanks, rfl⟩ :=
        callAt?_eq_some_iff.mp h
      exact .call r hfront hq hs he hblanks
  · rintro ⟨rfl, h⟩
    rw [importAt?, Option.orElse_eq_orElse, Option.orElse_eq_or, Option.or_eq_some_iff]
    cases h with
    | @clause front s q e rest hfront hq hs he =>
      refine .inl (clauseAt?_eq_some_iff.mpr ⟨front, q, s, e, rest, ?_, hfront, hq, hs, he, rfl⟩)
      simp [Found.text, Found.around]
    | @call front s blanks q e rest hfront hq hs he hblanks =>
      have htext : (Found.around front q s (e :: (blanks ++ [')'])) rest).text ++ rest =
          front ++ q :: (s ++ e :: (blanks ++ ')' :: rest)) := by
        simp [Found.text, Found.around]
      refine .inr ⟨?_, callAt?_eq_some_iff.mpr
        ⟨front, q, s, e, blanks, rest, htext, hfront, hq, hs, he, hblanks, rfl⟩⟩
      -- a clause has no parenthesis in front of its string
      rw [Option.eq_none_iff_forall_ne_some]
      intro g hg
      obtain ⟨front', q', s', e', r', htext', hfront', hq', -⟩ := clauseAt?_eq_some_iff.mp hg
      have hsame := eq_of_unquoted hfront.unquoted hfront'.unquoted hq hq' (htext.symm.trans htext')
      exact hfront'.paren_notMem (hsame ▸ hfront.paren_mem)

/-- An import stays one in front of more text. -/
theorem importAt?_append (h : importAt? before x = some f) (y : List Char) :
    importAt? before (x ++ y) = some { f with rest := f.rest ++ y } := by
  obtain ⟨htext, hshape⟩ := importAt?_eq_some_iff.mp h
  refine importAt?_eq_some_iff.mpr ⟨?_, hshape.of_rest _⟩
  conv_lhs => rw [htext]
  exact List.append_assoc _ _ _

/-- An import that ends within a text is one without what follows. -/
theorem importAt?_of_append (h : importAt? before (x ++ y) = some f) {r : List Char}
    (hrest : f.rest = r ++ y) : importAt? before x = some { f with rest := r } := by
  obtain ⟨htext, hshape⟩ := importAt?_eq_some_iff.mp h
  refine importAt?_eq_some_iff.mpr ⟨?_, hshape.of_rest _⟩
  rw [hrest, ← List.append_assoc] at htext
  exact List.append_cancel_right htext

/-! ## Scanning behind a character -/

theorem length_of_importAt? (h : importAt? before cs = some f) :
    f.rest.length < cs.length := by
  have htext := congrArg List.length (eq_append_of_importAt? h)
  have hfront := List.length_pos_iff.mpr (front_ne_nil_of_importAt? h)
  simp only [List.length_append] at htext
  omega

/-- Every scan comes to the end character by character and import by import. -/
@[elab_as_elim]
theorem scan_induction {motive : Option Char → List Char → Prop}
    (nil : ∀ before, motive before [])
    (plain : ∀ before c cs, importAt? before (c :: cs) = none → motive (some c) cs →
      motive before (c :: cs))
    (found : ∀ before cs f, importAt? before cs = some f → motive f.back.getLast? f.rest →
      motive before cs)
    (before : Option Char) (cs : List Char) : motive before cs := by
  induction hn : cs.length using Nat.strong_induction_on generalizing before cs with
  | h n ih =>
    subst hn
    cases hat : importAt? before cs with
    | some f => exact found before cs f hat (ih _ (length_of_importAt? hat) _ _ rfl)
    | none =>
      cases cs with
      | nil => exact nil before
      | cons c cs => exact plain before c cs hat (ih _ (Nat.lt_succ_self _) _ _ rfl)

theorem chunksFrom_fuel (before : Option Char) (cs : List Char) :
    ∀ {n : Nat}, cs.length ≤ n → chunksFrom n before cs = chunksFrom cs.length before cs := by
  induction before, cs using scan_induction with
  | nil before =>
    intro n _
    cases n <;> rfl
  | plain before c cs hnone ih =>
    intro n hn
    obtain ⟨n, rfl⟩ := Nat.exists_eq_succ_of_ne_zero (n := n) (by rintro rfl; simp at hn)
    simp only [List.length_cons, chunksFrom, hnone]
    rw [ih (by simpa using hn)]
  | found before cs f hat ih =>
    intro n hn
    have hlength := length_of_importAt? hat
    obtain ⟨n, rfl⟩ := Nat.exists_eq_succ_of_ne_zero (n := n) (by omega)
    obtain ⟨m, hm⟩ := Nat.exists_eq_succ_of_ne_zero (n := cs.length) (by omega)
    rw [hm, Nat.succ_eq_add_one, Nat.succ_eq_add_one, chunksFrom_of_importAt? hat,
      chunksFrom_of_importAt? hat, ih (n := n) (by omega), ih (n := m) (by omega)]

/-- The chunks of code behind a character. -/
def chunksBehind (before : Option Char) (cs : List Char) : List Chunk :=
  chunksFrom cs.length before cs

theorem chunks_eq (code : List Char) : chunks code = chunksBehind none code := rfl

theorem chunksBehind_of_none (h : importAt? before (c :: cs) = none) :
    chunksBehind before (c :: cs) = .plain c :: chunksBehind (some c) cs := by
  simp only [chunksBehind, List.length_cons, chunksFrom, h]

theorem chunksBehind_of_importAt? (h : importAt? before cs = some f) :
    chunksBehind before cs = f.front.map .plain ++ .specifier f.specifier ::
      (f.back.map .plain ++ chunksBehind f.back.getLast? f.rest) := by
  have hlength := length_of_importAt? h
  obtain ⟨m, hm⟩ := Nat.exists_eq_succ_of_ne_zero (n := cs.length) (by omega)
  rw [chunksBehind, hm, Nat.succ_eq_add_one, chunksFrom_of_importAt? h,
    chunksFrom_fuel _ _ (n := m) (by omega), chunksBehind]

/-! ## Borders -/

/-- No import that begins in the first text ends in the second. -/
def Parts (x y : List Char) : Prop :=
  ∀ before part f, part ≠ [] → part <:+ x → importAt? before (part ++ y) = some f →
    ∃ r, f.rest = r ++ y

theorem Parts.of_suffix {part : List Char} (h : Parts x y) (hpart : part <:+ x) : Parts part y :=
  fun before part' f hne hpart' => h before part' f hne (hpart'.trans hpart)

theorem back_ne_nil_of_importAt? (h : importAt? before cs = some f) : f.back ≠ [] := by
  obtain ⟨front, q, e, back, -, -, hback, -⟩ := text_of_importAt? h
  simp [hback]

/-- Code is scanned part by part where no import goes over the border. -/
theorem chunksBehind_append (before : Option Char) (h : Parts x y) :
    chunksBehind before (x ++ y) =
      chunksBehind before x ++ chunksBehind (x.getLast?.or before) y := by
  induction before, x using scan_induction with
  | nil before => rfl
  | plain before c x hnone ih =>
    -- an import that begins here would end in front of the border
    have hnone' : importAt? before (c :: x ++ y) = none := by
      rw [Option.eq_none_iff_forall_ne_some]
      intro f hf
      obtain ⟨r, hr⟩ := h before (c :: x) f (List.cons_ne_nil _ _) List.suffix_rfl hf
      exact absurd (importAt?_of_append hf hr) (by simp [hnone])
    rw [List.cons_append] at hnone' ⊢
    rw [chunksBehind_of_none hnone', chunksBehind_of_none hnone,
      ih (h.of_suffix (List.suffix_cons c x)), List.getLast?_cons, List.cons_append]
    cases x.getLast? <;> rfl
  | found before x f hat ih =>
    have htext := eq_append_of_importAt? hat
    have hlast : x.getLast?.or before = f.rest.getLast?.or f.back.getLast? := by
      obtain ⟨e, he⟩ := Option.isSome_iff_exists.mp
        (List.getLast?_isSome.mpr (back_ne_nil_of_importAt? hat))
      rw [htext, List.append_assoc, List.getLast?_append, List.getLast?_append, he]
      cases f.rest.getLast? <;> rfl
    rw [chunksBehind_of_importAt? (importAt?_append hat y), chunksBehind_of_importAt? hat, hlast,
      ih (h.of_suffix ⟨_, htext.symm⟩)]
    simp only [List.append_assoc, List.cons_append]

/-! ## What an import does not get through -/

/-- A character that stands in an import inside the string only, or in front of all or behind all. -/
def isStop (c : Char) : Bool := !isBinding c && c != '(' && !isQuote c

theorem isStop_eq_false_of_isBinding (h : isBinding c = true) : isStop c = false := by
  simp [isStop, h]

theorem isStop_eq_false_of_isBlank (h : isBlank c = true) : isStop c = false :=
  isStop_eq_false_of_isBinding (by simp [isBinding, h])

theorem isStop_eq_false_of_isQuote (h : isQuote c = true) : isStop c = false := by
  simp [isStop, h]

theorem isBinding_of_mem_importWord (h : c ∈ importWord) : isBinding c = true :=
  List.all_eq_true.mp (by decide : importWord.all isBinding = true) c h

theorem WordFront.isBinding (h : WordFront front) : ∀ c ∈ front, isBinding c = true := by
  obtain ⟨hword, hall, -⟩ := h
  intro c hc
  rcases List.mem_append.mp hc with hc | hc
  · rcases hword with rfl | rfl
    · exact isBinding_of_mem_importWord hc
    · exact List.all_eq_true.mp (by decide : exportWord.all Import.isBinding = true) c hc
  · exact hall c hc

theorem WordFront.isStop (h : WordFront front) : ∀ c ∈ front, isStop c = false :=
  fun c hc => isStop_eq_false_of_isBinding (h.isBinding c hc)

theorem ClauseFront.isStop (h : ClauseFront before front) : ∀ c ∈ front.tail, isStop c = false := by
  cases h with
  | atStart _ hfront => exact fun c hc => hfront.isStop c (List.mem_of_mem_tail hc)
  | behind _ hfront => exact hfront.isStop

theorem CallFront.isStop (h : CallFront before front) : ∀ c ∈ front, isStop c = false := by
  obtain ⟨-, hblanks, hinside⟩ := h
  intro c hc
  simp only [List.mem_append, List.mem_cons] at hc
  rcases hc with (hc | hc) | rfl | hc
  · exact isStop_eq_false_of_isBinding (isBinding_of_mem_importWord hc)
  · exact isStop_eq_false_of_isBlank (hblanks c hc)
  · decide
  · exact isStop_eq_false_of_isBlank (hinside c hc)

theorem Shape.isStop_front (h : Shape before f) : ∀ d ∈ f.front.tail, isStop d = false := by
  have htail : ∀ {front : List Char} {q : Char}, (∀ d ∈ front.tail, isStop d = false) →
      isQuote q = true → ∀ d ∈ (front ++ [q]).tail, isStop d = false := by
    intro front q hfront hq d hd
    cases front with
    | nil => exact absurd hd List.not_mem_nil
    | cons x front =>
      rcases List.mem_append.mp hd with hd | hd
      · exact hfront d hd
      · rw [List.mem_singleton.mp hd]
        exact isStop_eq_false_of_isQuote hq
  cases h with
  | clause _ hfront hq _ _ => exact htail hfront.isStop hq
  | call _ hfront hq _ _ _ => exact htail (fun d hd => hfront.isStop d (List.mem_of_mem_tail hd)) hq

theorem Shape.stop_back (h : Shape before f) {x y : List Char} (hback : f.back = x ++ c :: y)
    (hc : isStop c = true) : c = ')' ∧ y = [] := by
  have hquote : ∀ {e : Char}, isQuote e = true → c ≠ e := by
    rintro e he rfl
    simp [isStop_eq_false_of_isQuote he] at hc
  cases h with
  | @clause front s q e rest _ _ _ he =>
    have hmem : c ∈ [e] := by
      show c ∈ (Found.around front q s [e] rest).back
      simp [hback]
    exact absurd (List.mem_singleton.mp hmem) (hquote he)
  | @call front s blanks q e rest _ _ _ he hblanks =>
    have hend : (e :: blanks) ++ [')'] = x ++ c :: y := hback
    rcases append_eq_append_cons hend with ⟨more, hmore, -⟩ | ⟨more, -, hmore⟩
    · have hmem : c ∈ e :: blanks := by simp [hmore]
      rcases List.mem_cons.mp hmem with heq | hmem
      · exact absurd heq (hquote he)
      · simp [isStop_eq_false_of_isBlank (hblanks c hmem)] at hc
    · cases more with
      | nil =>
        obtain ⟨rfl, rfl⟩ := List.cons.inj hmore
        exact ⟨rfl, rfl⟩
      | cons d more => simp at hmore

/-- A stop within the text of an import stands inside its string. -/
theorem Shape.stop_inside (h : Shape before f) {p t : List Char} (htext : f.text = p ++ c :: t)
    (hp : p ≠ []) (hc : isStop c = true) (hend : c = ')' → t ≠ []) :
    ∃ s s', p = f.front ++ s ∧ f.specifier = s ++ c :: s' ∧ t = s' ++ f.back := by
  rw [Found.text] at htext
  rcases append_eq_append_cons htext with ⟨more, hmore, rfl⟩ | ⟨more, rfl, hmore⟩
  · rcases append_eq_append_cons hmore with ⟨s', hs', -⟩ | ⟨s, rfl, hs⟩
    · -- a stop in front of the string would be its first character
      obtain ⟨d, p, rfl⟩ := List.exists_cons_of_ne_nil hp
      have hmem : c ∈ f.front.tail := by simp [hs']
      simp [h.isStop_front c hmem] at hc
    · exact ⟨s, more, rfl, hs, rfl⟩
  · -- behind the string it would be the last
    obtain ⟨hparen, rfl⟩ := h.stop_back hmore hc
    exact absurd rfl (hend hparen)

/-- What stands behind an import, or the text that goes on inside it. -/
theorem rest_or_inside (h : importAt? before (x ++ y) = some f) :
    (∃ r, f.rest = r ++ y) ∨ ∃ v, v ≠ [] ∧ f.text = x ++ v ∧ y = v ++ f.rest := by
  have htext := eq_append_of_importAt? h
  rcases List.append_eq_append_iff.mp htext with ⟨v, hv, hy⟩ | ⟨r, -, hr⟩
  · cases v with
    | nil => exact .inl ⟨[], by simpa using hy.symm⟩
    | cons d v => exact .inr ⟨d :: v, List.cons_ne_nil _ _, hv, hy⟩
  · exact .inl ⟨r, hr⟩

/-- No import goes over a border if none that begins in front of it has text behind it. -/
theorem parts_of_not_inside
    (h : ∀ {before : Option Char} {part : List Char} {f : Found} {v : List Char}, part ≠ [] →
      part <:+ x → Shape before f → f.text = part ++ v → v ≠ [] → y ≠ v ++ f.rest) :
    Parts x y := by
  intro before part f hne hsuffix hat
  refine (rest_or_inside hat).resolve_right ?_
  rintro ⟨v, hv, htext, hy⟩
  exact h hne hsuffix (importAt?_eq_some_iff.mp hat).2 htext hv hy

/-- No import goes over a character that none holds behind the text. -/
theorem parts_cons_of_not_inside
    (h : ∀ {before : Option Char} {part : List Char} {f : Found} {v : List Char}, part ≠ [] →
      part <:+ x → Shape before f → f.text ≠ part ++ c :: v) (y : List Char) :
    Parts x (c :: y) := by
  refine parts_of_not_inside fun hne hsuffix hshape htext hv hy => ?_
  obtain ⟨b, v, rfl⟩ := List.exists_cons_of_ne_nil hv
  obtain ⟨rfl, -⟩ := List.cons.inj hy
  exact h hne hsuffix hshape htext

theorem WordFront.head (h : WordFront front) :
    ∃ d rest, front = d :: rest ∧ (d = 'i' ∨ d = 'e') := by
  obtain ⟨hword, -, -⟩ := h
  rcases hword with rfl | rfl
  · exact ⟨'i', _, rfl, .inl rfl⟩
  · exact ⟨'e', _, rfl, .inr rfl⟩

/-- An import begins with the letter of a word, or with another character in front of one. -/
theorem Shape.head (h : Shape before f) :
    ∃ d rest, f.text = d :: rest ∧ ((d = 'i' ∨ d = 'e') ∨
      ∃ d' rest', rest = d' :: rest' ∧ (d' = 'i' ∨ d' = 'e')) := by
  cases h with
  | clause rest hfront =>
    cases hfront with
    | atStart _ hfront =>
      obtain ⟨d, more, rfl, hd⟩ := hfront.head
      exact ⟨d, _, rfl, .inl hd⟩
    | behind _ hfront =>
      obtain ⟨d, more, rfl, hd⟩ := hfront.head
      exact ⟨_, _, rfl, .inr ⟨d, _, rfl, hd⟩⟩
  | call rest hfront =>
    obtain ⟨-, -, -⟩ := hfront
    exact ⟨'i', _, rfl, .inl (.inl rfl)⟩

/-- An import ends in a quote or a parenthesis. -/
theorem Shape.last (h : Shape before f) :
    ∃ d, f.text.getLast? = some d ∧ (isQuote d = true ∨ d = ')') := by
  cases h with
  | clause _ _ _ _ he => exact ⟨_, List.getLast?_concat, .inl he⟩
  | call =>
    refine ⟨')', ?_, .inr rfl⟩
    rw [Found.text, Found.around, ← List.cons_append, ← List.append_assoc]
    exact List.getLast?_concat

/-- So does what is left of it behind a part. -/
theorem Shape.last_mem (h : Shape before f) {part v : List Char} (htext : f.text = part ++ v)
    (hv : v ≠ []) : ∃ d ∈ v, isQuote d = true ∨ d = ')' := by
  obtain ⟨d, hlast, hd⟩ := h.last
  obtain ⟨e, he⟩ := Option.isSome_iff_exists.mp (List.getLast?_isSome.mpr hv)
  rw [htext, List.getLast?_append, he, Option.some_or] at hlast
  obtain rfl := Option.some.inj hlast
  exact ⟨e, List.mem_of_getLast? he, hd⟩

/-- A character that is no quote and with which no word of an import begins. -/
def isHarmless (c : Char) : Bool := !isQuote c && c != 'i' && c != 'e'

theorem isHarmless_iff : isHarmless c = true ↔ isQuote c = false ∧ c ≠ 'i' ∧ c ≠ 'e' := by
  simp [isHarmless, and_assoc]

/-- A text of harmless characters, or with such characters behind a stop. -/
inductive Barred : List Char → Prop
  | harmless {x : List Char} (h : ∀ d ∈ x, isHarmless d = true) : Barred x
  | stop (front : List Char) {c : Char} {x : List Char} (hc : isStop c = true)
      (h : ∀ d ∈ x, isHarmless d = true) : Barred (front ++ c :: x)

/-- No import begins in harmless characters, nor with another character in front of them, if it is
not the letter of a word. -/
theorem Shape.not_harmless (h : Shape before f) {d : Char} {part v : List Char}
    (htext : f.text = d :: part ++ '\n' :: v) (hd : d ≠ 'i' ∧ d ≠ 'e')
    (hpart : ∀ c ∈ part, isHarmless c = true) : False := by
  obtain ⟨d', rest, hhead, hletter⟩ := h.head
  rw [hhead, List.cons_append] at htext
  obtain ⟨rfl, rfl⟩ := List.cons.inj htext
  rcases hletter with hletter | ⟨c, rest, hrest, hc⟩
  · rcases hletter with rfl | rfl
    · exact hd.1 rfl
    · exact hd.2 rfl
  · cases part with
    | nil =>
      obtain ⟨rfl, -⟩ := List.cons.inj hrest
      exact absurd hc (by decide)
    | cons x part =>
      obtain ⟨rfl, -⟩ := List.cons.inj hrest
      obtain ⟨-, hi, he⟩ := isHarmless_iff.mp (hpart _ List.mem_cons_self)
      rcases hc with hc | hc
      · exact hi hc
      · exact he hc

theorem Shape.content (h : Shape before f) : Content f.specifier := by
  cases h with
  | clause _ _ _ hs _ => exact hs
  | call _ _ _ hs _ _ => exact hs

theorem Shape.back_eq (h : Shape before f) : ∃ e back, f.back = e :: back ∧ isQuote e = true := by
  cases h with
  | clause _ _ _ _ he => exact ⟨_, _, rfl, he⟩
  | call _ _ _ _ he _ => exact ⟨_, _, rfl, he⟩

theorem Shape.front_eq (h : Shape before f) :
    ∃ front q, f.front = front ++ [q] ∧ isQuote q = true := by
  cases h with
  | clause _ _ hq _ _ => exact ⟨_, _, rfl, hq⟩
  | call _ _ hq _ _ _ => exact ⟨_, _, rfl, hq⟩

theorem Content.feed_notMem {s : List Char} (h : Content s) : '\n' ∉ s :=
  fun hmem => absurd (h.inside _ hmem) (by decide)

/-- A stop within an import stands in its string, which ends at a quote in front of any line feed. -/
theorem Shape.not_stop (h : Shape before f) {lead tail v : List Char} {c : Char}
    (htext : f.text = lead ++ c :: (tail ++ '\n' :: v)) (hlead : lead ≠ []) (hc : isStop c = true)
    (htail : ∀ d ∈ tail, isHarmless d = true) : False := by
  obtain ⟨s, s', -, hspecifier, hbehind⟩ := h.stop_inside htext hlead hc fun _ => by simp
  obtain ⟨e, back, hback, he⟩ := h.back_eq
  have hfeed : '\n' ∉ s' := fun hmem =>
    h.content.feed_notMem (by rw [hspecifier]; simp [hmem])
  rw [hback] at hbehind
  rcases append_eq_append_cons hbehind with ⟨rest, rfl, -⟩ | ⟨rest, rfl, hrest⟩
  · -- the quote is one of the harmless characters
    have hquote := (isHarmless_iff.mp (htail e (by simp))).1
    simp [hquote] at he
  · -- the line feed is the quote, or it is in the string
    cases rest with
    | nil =>
      obtain ⟨rfl, -⟩ := List.cons.inj hrest
      exact absurd he (by decide)
    | cons d rest =>
      obtain ⟨rfl, -⟩ := List.cons.inj hrest
      exact hfeed (by simp)

/-- No import goes over a line feed behind a barred text. -/
theorem Barred.parts (hx : Barred x) (y : List Char) : Parts x ('\n' :: y) := by
  refine parts_cons_of_not_inside (fun {before part f v} hne hsuffix hshape htext => ?_) y
  have hharmless : (∀ d ∈ part, isHarmless d = true) → False := by
    intro hpart
    obtain ⟨d, part, rfl⟩ := List.exists_cons_of_ne_nil hne
    obtain ⟨hd, hpart⟩ := List.forall_mem_cons.mp hpart
    exact hshape.not_harmless htext (isHarmless_iff.mp hd).2 hpart
  cases hx with
  | harmless h => exact hharmless fun d hd => h d (hsuffix.subset hd)
  | @stop front c tail hc h =>
    -- the import begins behind the stop, at it, or in front of it
    obtain ⟨lead, hlead⟩ := hsuffix
    rcases append_eq_append_cons hlead with ⟨more, -, hmore⟩ | ⟨more, -, rfl⟩
    · exact hharmless fun d hd => h d (hmore ▸ List.mem_append_right _ hd)
    · cases more with
      | nil =>
        have hletter : c ≠ 'i' ∧ c ≠ 'e' := by
          constructor
          · rintro rfl
            exact absurd hc (by decide)
          · rintro rfl
            exact absurd hc (by decide)
        exact hshape.not_harmless htext hletter h
      | cons d more =>
        rw [List.append_assoc, List.cons_append] at htext
        exact hshape.not_stop htext (List.cons_ne_nil _ _) hc h

/-- No import goes over a semicolon behind text without quotes. -/
theorem parts_semicolon (hx : Unquoted x) (y : List Char) : Parts x (';' :: y) := by
  refine parts_cons_of_not_inside (fun hne hsuffix hshape htext => ?_) y
  obtain ⟨s, s', hpart, -⟩ := hshape.stop_inside htext hne (by decide) (by simp)
  obtain ⟨front, q, hfront, hq⟩ := hshape.front_eq
  have hquote := hx q (hsuffix.subset (by rw [hpart, hfront]; simp))
  simp [hquote] at hq

/-- No import goes into text without quotes and parentheses that close. -/
theorem parts_of_notMem {t : List Char} (ht : Unquoted t) (hparen : ')' ∉ t) (x : List Char) :
    Parts x t := by
  refine parts_of_not_inside fun hne hsuffix hshape htext hv hy => ?_
  subst hy
  obtain ⟨d, hmem, hd | rfl⟩ := hshape.last_mem htext hv
  · have hquote := ht d (List.mem_append_left _ hmem)
    simp [hquote] at hd
  · exact hparen (List.mem_append_left _ hmem)

/-- No import gets through a line feed and text without quotes to a stop. -/
theorem parts_of_stop {u : List Char} (hu : Unquoted u) (hparen : ')' ∉ u) (hc : isStop c = true)
    (hne' : c ≠ ')') (x z : List Char) : Parts x ('\n' :: u ++ c :: z) := by
  refine parts_of_not_inside fun {before part f v} hne hsuffix hshape htext hv hy => ?_
  have hw : Unquoted ('\n' :: u) := List.forall_mem_cons.mpr ⟨by decide, hu⟩
  rcases append_eq_append_cons hy.symm with ⟨rest, rfl, -⟩ | ⟨rest, hwhole, -⟩
  · -- the stop is inside the string, and so is the line feed
    rw [← List.append_assoc] at htext
    obtain ⟨s, s', hpart, hspecifier, -⟩ :=
      hshape.stop_inside htext (by simp) hc fun heq => absurd heq hne'
    obtain ⟨front, q, hfront, hq⟩ := hshape.front_eq
    rw [hfront, List.append_assoc, List.singleton_append] at hpart
    rcases append_eq_append_cons hpart with ⟨more, -, rfl⟩ | ⟨more, -, hmore⟩
    · exact hshape.content.feed_notMem (by rw [hspecifier]; simp)
    · have hquote := hw q (by rw [hmore]; simp)
      simp [hquote] at hq
  · -- the import would end in the text
    have hsubset : ∀ d ∈ v, d ∈ '\n' :: u := fun d hd => hwhole ▸ List.mem_append_left _ hd
    obtain ⟨d, hmem, hd | rfl⟩ := hshape.last_mem htext hv
    · have hquote := hw d (hsubset d hmem)
      simp [hquote] at hd
    · exact hparen ((List.mem_cons.mp (hsubset _ hmem)).resolve_left (by decide))

/-! ## Breaks -/

theorem clauseAt?_break (hc : c = ';' ∨ isBlank c = true) (before : Option Char) (y : List Char) :
    clauseAt? before (c :: y) = (wordAt? y).map (·.behind [c]) := by
  simp only [clauseAt?, wordAt?_of_blank hc, ite_self,
    if_pos (show (c = ';' || isBlank c) = true by simpa using hc)]
  rfl

theorem callAt?_break (hc : c = ';' ∨ isBlank c = true) (before : Option Char) (y : List Char) :
    callAt? before (c :: y) = none := by
  have hletter : 'i' ≠ c := by
    rintro rfl
    exact absurd hc (by decide)
  have hword : after? importWord (c :: y) = none := if_neg hletter
  rw [callAt?, hword]
  split <;> rfl

/-- Behind a character that is none of a word and where no clause begins, code is scanned as at its
start. -/
theorem importAt?_of_wordAt?_eq_none (hword : wordAt? y = none) (hc : isWord c = false) :
    importAt? (some c) y = importAt? none y := by
  simp only [importAt?, clauseAt?, hword, ite_self, callAt?, Option.map_some, Option.map_none,
    Option.getD_some, Option.getD_none, hc]

/-- Neither a semicolon nor a blank is a character of a word. -/
theorem isWord_of_break (hc : c = ';' ∨ isBlank c = true) : isWord c = false := by
  rcases hc with rfl | hc
  · decide
  · have hnone : ∀ n ∈ blankCodes, (!isWord (Char.ofNat n)) = true := by decide +kernel
    simpa using of_isBlank (p := (!isWord ·)) hnone hc

/-- Behind a blank or a semicolon, scanning begins anew. -/
theorem chunksBehind_break (hc : c = ';' ∨ isBlank c = true) (before : Option Char)
    (y : List Char) : chunksBehind before (c :: y) = .plain c :: chunksBehind none y := by
  have hat : importAt? before (c :: y) = (wordAt? y).map (·.behind [c]) := by
    rw [importAt?, clauseAt?_break hc, callAt?_break hc, Option.orElse_eq_orElse,
      Option.orElse_eq_or, Option.or_none]
  cases hword : wordAt? y with
  | some g =>
    have hnext : importAt? none y = some g := by
      simp only [importAt?, clauseAt?, hword, Option.isNone_none, Bool.true_or, if_true]
      rfl
    rw [hword, Option.map_some] at hat
    rw [chunksBehind_of_importAt? hat, chunksBehind_of_importAt? hnext]
    rfl
  | none =>
    rw [hword, Option.map_none] at hat
    rw [chunksBehind_of_none hat]
    cases y with
    | nil => rfl
    | cons d y =>
      -- no word begins here, so it does not matter that the character stands in front of it
      have hsame := importAt?_of_wordAt?_eq_none hword (isWord_of_break hc)
      cases hfound : importAt? none (d :: y) with
      | some f =>
        rw [chunksBehind_of_importAt? hfound, chunksBehind_of_importAt? (hsame.trans hfound)]
      | none => rw [chunksBehind_of_none hfound, chunksBehind_of_none (hsame.trans hfound)]

/-- Behind a line feed too. -/
theorem chunksBehind_feed (before : Option Char) (y : List Char) :
    chunksBehind before ('\n' :: y) = .plain '\n' :: chunksBehind none y :=
  chunksBehind_break (.inr (by decide)) before y

/-! ## Code with its parts -/

theorem chunksBehind_unquoted (before : Option Char) (hx : Unquoted x) :
    chunksBehind before x = x.map .plain := by
  induction before, x using scan_induction with
  | nil before => rfl
  | plain before c x hnone ih =>
    rw [chunksBehind_of_none hnone, ih fun d hd => hx d (List.mem_cons_of_mem c hd), List.map_cons]
  | found before x f hat ih =>
    obtain ⟨front, q, e, back, htext, -, -, hq, -⟩ := text_of_importAt? hat
    have hquote := hx q (by rw [htext]; simp)
    simp [hquote] at hq

/-- A barred line is scanned alone. -/
theorem chunks_line (hx : Barred x) (y : List Char) :
    chunks (x ++ '\n' :: y) = chunks x ++ .plain '\n' :: chunks y := by
  rw [chunks_eq, chunksBehind_append none (hx.parts y), chunksBehind_feed]
  rfl

/-- Code behind a statement without quotes is scanned alone. -/
theorem chunks_statement (hx : Unquoted x) (y : List Char) :
    chunks (x ++ ';' :: y) = (x ++ [';']).map .plain ++ chunks y := by
  rw [chunks_eq, chunksBehind_append none (parts_semicolon hx y), chunksBehind_unquoted none hx,
    chunksBehind_break (.inl rfl), List.map_append, List.append_assoc]
  rfl

/-- Code in front of text that ends no import is scanned alone. -/
theorem chunks_ended {t : List Char} (ht : Unquoted t) (hparen : ')' ∉ t) (x : List Char) :
    chunks (x ++ t) = chunks x ++ t.map .plain := by
  rw [chunks_eq, chunksBehind_append none (parts_of_notMem ht hparen x), chunksBehind_unquoted _ ht]
  rfl

/-- The specifiers among chunks. -/
def specifiers (cs : List Chunk) : List (List Char) :=
  cs.filterMap fun
    | .plain _ => none
    | .specifier s => some s

@[simp] theorem specifiers_append (cs ds : List Chunk) :
    specifiers (cs ++ ds) = specifiers cs ++ specifiers ds :=
  List.filterMap_append

@[simp] theorem specifiers_plain_cons (c : Char) (cs : List Chunk) :
    specifiers (.plain c :: cs) = specifiers cs := rfl

@[simp] theorem specifiers_specifier_cons (s : List Char) (cs : List Chunk) :
    specifiers (.specifier s :: cs) = s :: specifiers cs := rfl

@[simp] theorem specifiers_map_plain (cs : List Char) : specifiers (cs.map .plain) = [] := by
  induction cs with
  | nil => rfl
  | cons c cs ih => rw [List.map_cons, specifiers_plain_cons, ih]

theorem specifiers_exchange (r : List Char → List Char) (cs : List Chunk) :
    specifiers (cs.map (·.exchange r)) = (specifiers cs).map r := by
  induction cs with
  | nil => rfl
  | cons c cs ih => cases c <;> simp [ih]

theorem map_specifier_locate (cs : List Chunk) (offset line : Nat) :
    (locate offset line cs).map (·.specifier) = (specifiers cs).map String.ofList := by
  induction cs generalizing offset line with
  | nil => rfl
  | cons c cs ih =>
    cases c with
    | plain c => exact ih _ _
    | specifier s => exact congrArg (String.ofList s :: ·) (ih _ _)

/-- Scanning finds the specifiers among the chunks. -/
theorem map_specifier_scan (code : String) :
    (scan code).map (·.specifier) = (specifiers (chunks code.toList)).map String.ofList :=
  map_specifier_locate _ 0 0

end Import

end AppBundle
