import AppBundle.Import.Scan
import AppBundle.Proofs.Text.Search
import Mathlib.Tactic.Common

/-!
# What an import looks like

An import in front of a text is a front without quotes, a string, and, if it is a call, the blanks
and the parenthesis that close it (`clauseAt?_eq_some_iff`, `callAt?_eq_some_iff`). So whether there
is one does not depend on what the string holds, nor on what the strings behind it hold
(`Alike.importAt?_eq_none`).
-/

namespace AppBundle

namespace Import

open AppBundle.Text

variable {cs ds front rest : List Char} {f : Found} {before : Option Char}

/-! ## Quotes -/

theorem eq_of_isQuote {c : Char} (h : isQuote c = true) : c = '"' ∨ c = '\'' := by
  rwa [isQuote, Bool.or_eq_true, beq_iff_eq, beq_iff_eq] at h

theorem isBinding_of_isQuote {c : Char} (h : isQuote c = true) : isBinding c = false := by
  rcases eq_of_isQuote h with rfl | rfl <;> decide

theorem isBlank_of_isQuote {c : Char} (h : isQuote c = true) : isBlank c = false := by
  rcases eq_of_isQuote h with rfl | rfl <;> decide

theorem endsSpecifier_of_isQuote {c : Char} (h : isQuote c = true) : endsSpecifier c = true := by
  rw [endsSpecifier, h, Bool.true_or]

/-- Text without quotes. -/
def Unquoted (cs : List Char) : Prop := ∀ c ∈ cs, isQuote c = false

/-- The form for words. -/
theorem Unquoted.ofChars (h : cs.any isQuote = false) : Unquoted cs := by
  simpa [Unquoted] using h

theorem Unquoted.append (h : Unquoted cs) (h' : Unquoted ds) : Unquoted (cs ++ ds) := by
  intro c hc
  rcases List.mem_append.mp hc with hc | hc
  · exact h c hc
  · exact h' c hc

theorem unquoted_of_isBinding (h : ∀ c ∈ cs, isBinding c = true) : Unquoted cs := by
  intro c hc
  by_contra hquote
  exact absurd (h c hc) (by simp [isBinding_of_isQuote (Bool.not_eq_false _ ▸ hquote)])

theorem unquoted_of_isBlank (h : ∀ c ∈ cs, isBlank c = true) : Unquoted cs := by
  intro c hc
  by_contra hquote
  exact absurd (h c hc) (by simp [isBlank_of_isQuote (Bool.not_eq_false _ ▸ hquote)])

/-! ## Strings -/

/-- What a string may hold. -/
structure Content (s : List Char) : Prop where
  ne_nil : s ≠ []
  inside : ∀ c ∈ s, endsSpecifier c = false

theorem Content.unquoted {s : List Char} (h : Content s) : Unquoted s := by
  intro c hc
  by_contra hquote
  exact absurd (h.inside c hc) (by
    simp [endsSpecifier_of_isQuote (Bool.not_eq_false _ ▸ hquote)])

theorem stringAt?_eq_some_iff :
    stringAt? cs = some f ↔ ∃ q s e r, cs = q :: (s ++ e :: r) ∧ isQuote q = true ∧ Content s ∧
      isQuote e = true ∧ f = ⟨[q], s, [e], r⟩ := by
  constructor
  · intro h
    cases cs with
    | nil => exact absurd h (by simp [stringAt?])
    | cons q rest =>
      simp only [stringAt?] at h
      split at h
      · next hq =>
        split at h
        · next e behind hdrop =>
          split at h
          · next hcond =>
            obtain ⟨htext, hinside, -⟩ := eq_append_of_dropWhile hdrop
            rw [Bool.and_eq_true, Bool.not_eq_true', List.isEmpty_eq_false_iff] at hcond
            refine ⟨q, _, e, behind, congrArg (q :: ·) htext, hq, ⟨hcond.2, fun c hc => ?_⟩,
              hcond.1, (Option.some.inj h).symm⟩
            simpa using hinside c hc
          · exact absurd h (by simp)
        · exact absurd h (by simp)
      · exact absurd h (by simp)
  · rintro ⟨q, s, e, r, rfl, hq, hs, he, rfl⟩
    have hinside : ∀ d ∈ s, (!endsSpecifier d) = true := fun d hd => by simp [hs.inside d hd]
    have hstop : (!endsSpecifier e) = false := by simp [endsSpecifier_of_isQuote he]
    have hne : s.isEmpty = false := List.isEmpty_eq_false_iff.mpr hs.ne_nil
    simp only [stringAt?, hq, if_true, takeWhile_append_stop hinside hstop,
      dropWhile_append_stop hinside hstop, he, hne, Bool.not_false, Bool.and_self]

/-! ## Clauses and calls -/

/-- A string with an import in front of it and an end behind it. -/
def Found.around (front : List Char) (q : Char) (s back rest : List Char) : Found :=
  ⟨front ++ [q], s, back, rest⟩

/-- What an import binds, with its word in front of it. -/
inductive WordFront : List Char → Prop
  | mk {word binding : List Char} (hword : word = importWord ∨ word = exportWord)
      (hbinding : ∀ c ∈ binding, isBinding c = true) (htext : isBindingText binding = true) :
      WordFront (word ++ binding)

theorem bindingAt?_eq_some_iff :
    bindingAt? cs = some f ↔ ∃ binding q s e r, cs = binding ++ q :: (s ++ e :: r) ∧
      (∀ c ∈ binding, isBinding c = true) ∧ isBindingText binding = true ∧
      isQuote q = true ∧ Content s ∧ isQuote e = true ∧ f = .around binding q s [e] r := by
  constructor
  · intro h
    simp only [bindingAt?] at h
    split at h
    · next htext =>
      obtain ⟨g, hg, rfl⟩ := Option.map_eq_some_iff.mp h
      obtain ⟨q, s, e, r, hdrop, hq, hs, he, rfl⟩ := stringAt?_eq_some_iff.mp hg
      obtain ⟨hcs, hall, -⟩ := eq_append_of_dropWhile hdrop
      exact ⟨_, q, s, e, r, hcs, hall, htext, hq, hs, he, rfl⟩
    · exact absurd h (by simp)
  · rintro ⟨binding, q, s, e, r, rfl, hall, htext, hq, hs, he, rfl⟩
    have hstop := isBinding_of_isQuote hq
    have hstring : stringAt? (q :: (s ++ e :: r)) = some ⟨[q], s, [e], r⟩ :=
      stringAt?_eq_some_iff.mpr ⟨q, s, e, r, rfl, hq, hs, he, rfl⟩
    simp only [bindingAt?, takeWhile_append_stop hall hstop, dropWhile_append_stop hall hstop,
      htext, if_true, hstring, Option.map_some]
    rfl

theorem wordAt?_eq_some_iff_binding :
    wordAt? cs = some f ↔ ∃ word rest, (word = importWord ∨ word = exportWord) ∧
      cs = word ++ rest ∧ (bindingAt? rest).map (·.behind word) = some f := by
  constructor
  · intro h
    rw [wordAt?] at h
    split at h
    · next rest hrest => exact ⟨importWord, rest, .inl rfl, after?_eq_some_iff.mp hrest, h⟩
    · split at h
      · next rest hrest => exact ⟨exportWord, rest, .inr rfl, after?_eq_some_iff.mp hrest, h⟩
      · exact absurd h (by simp)
  · rintro ⟨word, rest, rfl | rfl, rfl, h⟩
    · rw [wordAt?, after?_append]
      exact h
    · have hnot : after? importWord (exportWord ++ rest) = none := rfl
      rw [wordAt?, hnot, after?_append]
      exact h

theorem wordAt?_eq_some_iff :
    wordAt? cs = some f ↔ ∃ front q s e r, cs = front ++ q :: (s ++ e :: r) ∧ WordFront front ∧
      isQuote q = true ∧ Content s ∧ isQuote e = true ∧ f = .around front q s [e] r := by
  rw [wordAt?_eq_some_iff_binding]
  constructor
  · rintro ⟨word, rest, hword, rfl, h⟩
    obtain ⟨g, hg, rfl⟩ := Option.map_eq_some_iff.mp h
    obtain ⟨binding, q, s, e, r, rfl, hall, htext, hq, hs, he, rfl⟩ := bindingAt?_eq_some_iff.mp hg
    refine ⟨word ++ binding, q, s, e, r, (List.append_assoc _ _ _).symm, .mk hword hall htext, hq,
      hs, he, ?_⟩
    simp only [Found.behind, Found.around, List.append_assoc]
  · rintro ⟨front, q, s, e, r, rfl, @⟨word, binding, hword, hall, htext⟩, hq, hs, he, rfl⟩
    have hbinding : bindingAt? (binding ++ q :: (s ++ e :: r)) =
        some (.around binding q s [e] r) :=
      bindingAt?_eq_some_iff.mpr ⟨binding, q, s, e, r, rfl, hall, htext, hq, hs, he, rfl⟩
    refine ⟨word, _, hword, List.append_assoc _ _ _, ?_⟩
    rw [hbinding, Option.map_some]
    simp only [Found.behind, Found.around, List.append_assoc]

/-- What stands in front of the string of a clause. -/
inductive ClauseFront (before : Option Char) : List Char → Prop
  | atStart {front : List Char} (hstart : before = none ∨ before = some '\n')
      (hfront : WordFront front) : ClauseFront before front
  | behind {c : Char} {front : List Char} (hc : c = ';' ∨ isBlank c = true)
      (hfront : WordFront front) : ClauseFront before (c :: front)

theorem wordAt?_of_blank {c : Char} (hc : c = ';' ∨ isBlank c = true) (rest : List Char) :
    wordAt? (c :: rest) = none := by
  have himport : c ≠ 'i' := by
    rintro rfl
    exact absurd hc (by decide)
  have hexport : c ≠ 'e' := by
    rintro rfl
    exact absurd hc (by decide)
  simp [wordAt?, importWord, exportWord, after?, Ne.symm himport, Ne.symm hexport]

theorem clauseAt?_eq_some_iff :
    clauseAt? before cs = some f ↔ ∃ front q s e r, cs = front ++ q :: (s ++ e :: r) ∧
      ClauseFront before front ∧ isQuote q = true ∧ Content s ∧ isQuote e = true ∧
      f = .around front q s [e] r := by
  constructor
  · intro h
    simp only [clauseAt?, Option.orElse_eq_orElse, Option.orElse_eq_or, Option.or_eq_some_iff] at h
    rcases h with h | ⟨-, h⟩
    · split at h
      · next hstart =>
        obtain ⟨front, q, s, e, r, hcs, hfront, hq, hs, he, rfl⟩ := wordAt?_eq_some_iff.mp h
        exact ⟨front, q, s, e, r, hcs, .atStart (by simpa using hstart) hfront, hq, hs, he, rfl⟩
      · exact absurd h (by simp)
    · split at h
      · next c rest =>
        split at h
        · next hc =>
          obtain ⟨g, hg, rfl⟩ := Option.map_eq_some_iff.mp h
          obtain ⟨front, q, s, e, r, rfl, hfront, hq, hs, he, rfl⟩ := wordAt?_eq_some_iff.mp hg
          exact ⟨c :: front, q, s, e, r, rfl, .behind (by simpa using hc) hfront, hq, hs, he, rfl⟩
        · exact absurd h (by simp)
      · exact absurd h (by simp)
  · rintro ⟨front, q, s, e, r, rfl, hfront, hq, hs, he, rfl⟩
    cases hfront with
    | atStart hstart hfront =>
      have hword := wordAt?_eq_some_iff.mpr ⟨front, q, s, e, r, rfl, hfront, hq, hs, he, rfl⟩
      simp only [clauseAt?, if_pos (show (before.isNone || before = some '\n') = true by
        simpa using hstart), hword]
      rfl
    | @behind c front hc hfront =>
      have hword := wordAt?_eq_some_iff.mpr ⟨front, q, s, e, r, rfl, hfront, hq, hs, he, rfl⟩
      rw [List.cons_append]
      simp only [clauseAt?, wordAt?_of_blank hc, ite_self, hword, Option.map_some,
        if_pos (show (c = ';' || isBlank c) = true by simpa using hc)]
      rfl

/-- What stands in front of the string of a call. -/
inductive CallFront (before : Option Char) : List Char → Prop
  | mk {blanks inside : List Char} (hbefore : (before.map isWord).getD false = false)
      (hblanks : ∀ c ∈ blanks, isBlank c = true) (hinside : ∀ c ∈ inside, isBlank c = true) :
      CallFront before (importWord ++ blanks ++ '(' :: inside)

theorem closed?_eq_some_iff {g : Found} :
    g.closed? = some f ↔ ∃ blanks r, g.rest = blanks ++ ')' :: r ∧
      (∀ c ∈ blanks, isBlank c = true) ∧
      f = { g with back := g.back ++ blanks ++ [')'], rest := r } := by
  rw [Found.closed?]
  constructor
  · intro h
    split at h
    · next r hclose =>
      obtain ⟨hrest, hblanks, -⟩ := eq_append_of_dropWhile hclose
      exact ⟨_, r, hrest, hblanks, (Option.some.inj h).symm⟩
    · exact absurd h (by simp)
  · rintro ⟨blanks, r, hrest, hblanks, rfl⟩
    have hend : isBlank ')' = false := by decide
    simp only [hrest, dropWhile_append_stop hblanks hend, takeWhile_append_stop hblanks hend]

/-- A call is found where it stands. -/
theorem callAt?_append {front s blanks : List Char} {q e : Char} (hfront : CallFront before front)
    (hq : isQuote q = true) (hs : Content s) (he : isQuote e = true)
    (hblanks : ∀ c ∈ blanks, isBlank c = true) (r : List Char) :
    callAt? before (front ++ q :: (s ++ e :: (blanks ++ ')' :: r))) =
      some (.around front q s (e :: (blanks ++ [')'])) r) := by
  cases hfront with
  | @mk between inside hbefore hbetween hinside =>
    have hparen : isBlank '(' = false := by decide
    have hquote : isBlank q = false := isBlank_of_isQuote hq
    have hstring : stringAt? (q :: (s ++ e :: (blanks ++ ')' :: r))) =
        some ⟨[q], s, [e], blanks ++ ')' :: r⟩ :=
      stringAt?_eq_some_iff.mpr ⟨q, s, e, _, rfl, hq, hs, he, rfl⟩
    have hclosed : (⟨[q], s, [e], blanks ++ ')' :: r⟩ : Found).closed? =
        some ⟨[q], s, [e] ++ blanks ++ [')'], r⟩ :=
      closed?_eq_some_iff.mpr ⟨blanks, r, rfl, hblanks, rfl⟩
    have htext : importWord ++ between ++ '(' :: inside ++ q :: (s ++ e :: (blanks ++ ')' :: r)) =
        importWord ++ (between ++ '(' :: (inside ++ q :: (s ++ e :: (blanks ++ ')' :: r)))) := by
      simp only [List.append_assoc, List.cons_append]
    rw [callAt?, if_neg (by simp [hbefore]), htext, after?_append, Option.bind_eq_bind,
      Option.bind_some]
    simp only [dropWhile_append_stop hbetween hparen, takeWhile_append_stop hbetween hparen,
      dropWhile_append_stop hinside hquote, takeWhile_append_stop hinside hquote, hstring, hclosed,
      Option.bind_eq_bind, Option.bind_some, Found.behind, Found.around, List.append_assoc,
      List.cons_append]
    rfl

theorem callAt?_eq_some_iff :
    callAt? before cs = some f ↔ ∃ front q s e blanks r,
      cs = front ++ q :: (s ++ e :: (blanks ++ ')' :: r)) ∧ CallFront before front ∧
      isQuote q = true ∧ Content s ∧ isQuote e = true ∧ (∀ c ∈ blanks, isBlank c = true) ∧
      f = .around front q s (e :: (blanks ++ [')'])) r := by
  constructor
  · intro h
    rw [callAt?] at h
    split at h
    · exact absurd h (by simp)
    · next hbefore =>
      obtain ⟨rest, hrest, h⟩ := Option.bind_eq_some_iff.mp h
      dsimp only at h
      split at h
      · next inner hinner =>
        obtain ⟨g, hg, h⟩ := Option.bind_eq_some_iff.mp h
        obtain ⟨g', hclosed, hcall⟩ := Option.bind_eq_some_iff.mp h
        obtain ⟨q, s, e, behind, hdrop, hq, hs, he, rfl⟩ := stringAt?_eq_some_iff.mp hg
        obtain ⟨blanks, r, rfl, hblanks, rfl⟩ := closed?_eq_some_iff.mp hclosed
        obtain ⟨hinner, hfront, -⟩ := eq_append_of_dropWhile hinner
        obtain ⟨hstring, hinside, -⟩ := eq_append_of_dropWhile hdrop
        refine ⟨_, q, s, e, blanks, r, ?_, .mk (by simpa using hbefore) hfront hinside, hq, hs, he,
          hblanks, ?_⟩
        · rw [after?_eq_some_iff.mp hrest]
          conv_lhs => rw [hinner, hstring]
          simp only [List.append_assoc, List.cons_append]
        · rw [← Option.some.inj hcall]
          simp only [Found.behind, Found.around, List.append_assoc, List.cons_append,
            List.nil_append]
      · exact absurd h (by simp)
  · rintro ⟨front, q, s, e, blanks, r, rfl, hfront, hq, hs, he, hblanks, rfl⟩
    exact callAt?_append hfront hq hs he hblanks r

theorem WordFront.unquoted (h : WordFront front) : Unquoted front := by
  obtain ⟨hword, hbinding, -⟩ := h
  refine Unquoted.append ?_ (unquoted_of_isBinding hbinding)
  rcases hword with rfl | rfl <;> exact .ofChars (by decide)

theorem ClauseFront.unquoted (h : ClauseFront before front) : Unquoted front := by
  cases h with
  | atStart _ hfront => exact hfront.unquoted
  | @behind c front hc hfront =>
    have hquote : isQuote c = false := by
      by_contra hquote
      rcases eq_of_isQuote (Bool.not_eq_false _ ▸ hquote) with rfl | rfl <;>
        exact absurd hc (by decide)
    exact List.forall_mem_cons.mpr ⟨hquote, hfront.unquoted⟩

theorem CallFront.unquoted (h : CallFront before front) : Unquoted front := by
  obtain ⟨-, hblanks, hinside⟩ := h
  refine Unquoted.append (Unquoted.append (.ofChars (by decide)) (unquoted_of_isBlank hblanks)) ?_
  exact List.forall_mem_cons.mpr ⟨by decide, unquoted_of_isBlank hinside⟩

/-! ## Texts that differ in strings only -/

/-- What a string may hold without closing a call: it begins with no blank and no parenthesis. -/
structure Exchangeable (s : List Char) : Prop extends Content s where
  /-- What it begins with. -/
  head : ∀ c, s.head? = some c → isBlank c = false ∧ c ≠ ')'

/-- Texts that are the same but for what some strings hold. -/
inductive Alike : List Char → List Char → Prop
  | nil : Alike [] []
  | same (c : Char) {cs ds : List Char} (h : Alike cs ds) : Alike (c :: cs) (c :: ds)
  | string {q e : Char} {s t cs ds : List Char} (hq : isQuote q = true) (he : isQuote e = true)
      (hs : Exchangeable s) (ht : Exchangeable t) (h : Alike cs ds) :
      Alike (q :: (s ++ e :: cs)) (q :: (t ++ e :: ds))

namespace Alike

theorem symm (h : Alike cs ds) : Alike ds cs := by
  induction h with
  | nil => exact .nil
  | same c _ ih => exact .same c ih
  | string hq he hs ht _ ih => exact .string hq he ht hs ih

theorem append (front : List Char) (h : Alike cs ds) : Alike (front ++ cs) (front ++ ds) := by
  induction front with
  | nil => exact h
  | cons c front ih => exact .same c ih

/-- Text without quotes in front is the same. -/
theorem of_append (hfront : Unquoted front) (h : Alike (front ++ cs) ds) :
    ∃ ds', ds = front ++ ds' ∧ Alike cs ds' := by
  induction front generalizing ds with
  | nil => exact ⟨ds, rfl, h⟩
  | cons c front ih =>
    obtain ⟨hc, hfront⟩ := List.forall_mem_cons.mp hfront
    generalize htext : c :: front ++ cs = text at h
    cases h with
    | nil => exact absurd htext (by simp)
    | same d h =>
      obtain ⟨rfl, rfl⟩ := List.cons.inj htext
      obtain ⟨ds', rfl, hrest⟩ := ih hfront h
      exact ⟨ds', rfl, hrest⟩
    | string hq =>
      obtain ⟨rfl, -⟩ := List.cons.inj htext
      exact absurd hq (by simp [hc])

/-- Where a string stands in one of the texts, one stands in the other. -/
theorem string_of {q e : Char} {s r : List Char} (hs : Content s) (he : isQuote e = true)
    (h : Alike (q :: (s ++ e :: r)) ds) :
    ∃ t e' r', ds = q :: (t ++ e' :: r') ∧ Content t ∧ isQuote e' = true ∧
      (Alike r r' ∨ ∃ s t, r = s ++ t ∧ Exchangeable s) := by
  generalize htext : q :: (s ++ e :: r) = text at h
  cases h with
  | nil => exact absurd htext (by simp)
  | same d h =>
    obtain ⟨rfl, rfl⟩ := List.cons.inj htext
    obtain ⟨ds', rfl, hend⟩ := of_append hs.unquoted h
    generalize hrest : e :: r = rest at hend
    cases hend with
    | nil => exact absurd hrest (by simp)
    | same d hend =>
      obtain ⟨rfl, rfl⟩ := List.cons.inj hrest
      exact ⟨s, e, _, rfl, hs, he, .inl hend⟩
    | string _ _ hs' =>
      -- the string ends where another one begins
      obtain ⟨rfl, rfl⟩ := List.cons.inj hrest
      exact ⟨s, e, _, rfl, hs, he, .inr ⟨_, _, rfl, hs'⟩⟩
  | @string _ e' s' t cs' ds' _ he' hs' ht' h =>
    obtain ⟨rfl, hsame⟩ := List.cons.inj htext
    have hdrop : ∀ {x : List Char} {c : Char}, Content x → isQuote c = true → ∀ rest,
        (x ++ c :: rest).dropWhile (!endsSpecifier ·) = c :: rest := by
      intro x c hx hc rest
      refine dropWhile_append_stop (fun d hd => by simp [hx.inside d hd]) ?_ rest
      simp [endsSpecifier_of_isQuote hc]
    have hbehind : e :: r = e' :: cs' := by
      rw [← hdrop hs he r, hsame, hdrop hs'.toContent he']
    obtain ⟨rfl, rfl⟩ := List.cons.inj hbehind
    exact ⟨t, e, ds', rfl, ht'.toContent, he', .inl h⟩

theorem isSome_clauseAt? (h : Alike cs ds) (hsome : (clauseAt? before cs).isSome = true) :
    (clauseAt? before ds).isSome = true := by
  obtain ⟨f, hf⟩ := Option.isSome_iff_exists.mp hsome
  obtain ⟨front, q, s, e, r, rfl, hfront, hq, hs, he, rfl⟩ := clauseAt?_eq_some_iff.mp hf
  obtain ⟨ds', rfl, hstring⟩ := of_append hfront.unquoted h
  obtain ⟨t, e', r', rfl, ht, he', -⟩ := string_of hs he hstring
  exact Option.isSome_iff_exists.mpr ⟨_, clauseAt?_eq_some_iff.mpr
    ⟨front, q, t, e', r', rfl, hfront, hq, ht, he', rfl⟩⟩

theorem isSome_callAt? (h : Alike cs ds) (hsome : (callAt? before cs).isSome = true) :
    (callAt? before ds).isSome = true := by
  obtain ⟨f, hf⟩ := Option.isSome_iff_exists.mp hsome
  obtain ⟨front, q, s, e, blanks, r, rfl, hfront, hq, hs, he, hblanks, rfl⟩ :=
    callAt?_eq_some_iff.mp hf
  obtain ⟨ds', rfl, hstring⟩ := of_append hfront.unquoted h
  obtain ⟨t, e', r', rfl, ht, he', hrest⟩ := string_of hs he hstring
  rcases hrest with hrest | ⟨s', rest, hclose, hs'⟩
  · obtain ⟨rest, rfl, hparen⟩ := of_append (unquoted_of_isBlank hblanks) hrest
    obtain ⟨rest', rfl, -⟩ : ∃ rest', rest = [')'] ++ rest' ∧ Alike r rest' :=
      of_append (.ofChars (by decide)) hparen
    exact Option.isSome_iff_exists.mpr ⟨_, callAt?_eq_some_iff.mpr
      ⟨front, q, t, e', blanks, rest', rfl, hfront, hq, ht, he', hblanks, rfl⟩⟩
  · -- what closes the call would be inside a string
    obtain ⟨c, s', rfl⟩ := List.exists_cons_of_ne_nil hs'.ne_nil
    obtain ⟨hblank, hparen⟩ := hs'.head c rfl
    cases blanks with
    | nil => exact absurd (List.cons.inj hclose).1.symm hparen
    | cons b blanks =>
      obtain ⟨rfl, -⟩ := List.cons.inj hclose
      exact absurd (hblanks b List.mem_cons_self) (by simp [hblank])

theorem refl (cs : List Char) : Alike cs cs := by
  simpa using Alike.nil.append cs

/-- Where no import stands in one of the texts, none stands in the other. -/
theorem importAt?_eq_none (h : Alike cs ds) (hnone : importAt? before cs = none) :
    importAt? before ds = none := by
  rw [importAt?, Option.orElse_eq_orElse, Option.orElse_eq_or, Option.or_eq_none_iff] at hnone ⊢
  constructor
  · by_contra hsome
    have hclause := h.symm.isSome_clauseAt? (Option.isSome_iff_ne_none.mpr hsome)
    simp [hnone.1] at hclause
  · by_contra hsome
    have hcall := h.symm.isSome_callAt? (Option.isSome_iff_ne_none.mpr hsome)
    simp [hnone.2] at hcall

end Alike

/-! ## Imports -/

/-- An import in front of a text is a string in quotes, with text in front of it and behind. -/
theorem text_of_importAt? (h : importAt? before cs = some f) :
    ∃ front q e back, cs = front ++ q :: (f.specifier ++ e :: (back ++ f.rest)) ∧
      f.front = front ++ [q] ∧ f.back = e :: back ∧ isQuote q = true ∧ isQuote e = true ∧
      Content f.specifier := by
  rw [importAt?, Option.orElse_eq_orElse, Option.orElse_eq_or, Option.or_eq_some_iff] at h
  rcases h with h | ⟨-, h⟩
  · obtain ⟨front, q, s, e, r, rfl, -, hq, hs, he, rfl⟩ := clauseAt?_eq_some_iff.mp h
    exact ⟨front, q, e, [], rfl, rfl, rfl, hq, he, hs⟩
  · obtain ⟨front, q, s, e, blanks, r, rfl, -, hq, hs, he, -, rfl⟩ := callAt?_eq_some_iff.mp h
    refine ⟨front, q, e, blanks ++ [')'], ?_, rfl, rfl, hq, he, hs⟩
    simp [Found.around]

/-- An import with another string in it, and other text behind it, is an import. -/
theorem importAt?_exchange (h : importAt? before cs = some f) {t r : List Char} (ht : Content t)
    (halike : Alike cs (f.front ++ t ++ f.back ++ r)) :
    importAt? before (f.front ++ t ++ f.back ++ r) =
      some { f with specifier := t, rest := r } := by
  rw [importAt?, Option.orElse_eq_orElse, Option.orElse_eq_or, Option.or_eq_some_iff] at h ⊢
  rcases h with h | ⟨hnone, h⟩
  · obtain ⟨front, q, s, e, r', rfl, hfront, hq, hs, he, rfl⟩ := clauseAt?_eq_some_iff.mp h
    refine .inl (clauseAt?_eq_some_iff.mpr ⟨front, q, t, e, r, ?_, hfront, hq, ht, he, rfl⟩)
    simp [Found.around]
  · obtain ⟨front, q, s, e, blanks, r', rfl, hfront, hq, hs, he, hblanks, rfl⟩ :=
      callAt?_eq_some_iff.mp h
    refine .inr ⟨?_, callAt?_eq_some_iff.mpr
      ⟨front, q, t, e, blanks, r, ?_, hfront, hq, ht, he, hblanks, rfl⟩⟩
    · by_contra hsome
      have hclause := halike.symm.isSome_clauseAt? (Option.isSome_iff_ne_none.mpr hsome)
      simp [hnone] at hclause
    · simp [Found.around]

end Import

end AppBundle
