import AppBundle.Code.Literal
import AppBundle.Proofs.Entry.Comments
import AppBundle.Url.Percent
import Mathlib.Algebra.Ring.Parity

/-!
# How literals are read

String literals between double quotes, as modules in ECMAScript 2019 have them: characters that
stand for themselves, escapes of one letter, escapes by hexadecimal digits, and line ends that are
continued. What a literal stands for is a list of units of 16 bits.

A literal that was written for a string is read back as that string, whatever follows it
(`denotes_literal`).
-/

namespace AppBundle.Code

/-! ## Units -/

/-- The units of a code point: one, or the halves of a surrogate pair. -/
def unitsOf (n : Nat) : List UInt16 :=
  if n < 0x10000 then [.ofNat n]
  else [.ofNat (0xD800 + (n - 0x10000) / 0x400), .ofNat (0xDC00 + (n - 0x10000) % 0x400)]

/-- The units of characters. -/
def units (cs : List Char) : List UInt16 :=
  cs.flatMap fun c => unitsOf c.toNat

theorem unitsOf_ne_nil (n : Nat) : unitsOf n ≠ [] := by
  unfold unitsOf
  split_ifs <;> exact List.cons_ne_nil _ _

@[simp] theorem units_cons (c : Char) (cs : List Char) :
    units (c :: cs) = unitsOf c.toNat ++ units cs := List.flatMap_cons

/-- A character is no half of a surrogate pair. -/
theorem toNat_bounds (c : Char) : c.toNat < 0xD800 ∨ 0xDFFF < c.toNat ∧ c.toNat < 0x110000 :=
  c.valid

theorem ofNat_inj {m n : Nat} (hm : m < 0x10000) (hn : n < 0x10000)
    (h : UInt16.ofNat m = UInt16.ofNat n) : m = n := by
  have hmod := congrArg UInt16.toNat h
  rw [UInt16.toNat_ofNat', UInt16.toNat_ofNat'] at hmod
  omega

/-- Characters are told from each other by their units, whatever units follow. -/
theorem unitsOf_append_inj {c d : Char} {x y : List UInt16}
    (h : unitsOf c.toNat ++ x = unitsOf d.toNat ++ y) : c = d ∧ x = y := by
  have hc := toNat_bounds c
  have hd := toNat_bounds d
  have heq : c.toNat = d.toNat → c = d := fun h => Char.toNat_inj.mp h
  unfold unitsOf at h
  split_ifs at h with hcs hds hds
  · obtain ⟨hunit, hrest⟩ := List.cons.inj h
    exact ⟨heq (ofNat_inj hcs hds hunit), hrest⟩
  · -- a character of one unit is no first half of a pair
    have hunit := ofNat_inj hcs (by omega) (List.cons.inj h).1
    omega
  · have hunit := ofNat_inj (by omega) hds (List.cons.inj h).1
    omega
  · obtain ⟨hhigh, hrest⟩ := List.cons.inj h
    obtain ⟨hlow, hrest⟩ := List.cons.inj hrest
    have hhigh := ofNat_inj (by omega) (by omega) hhigh
    have hlow := ofNat_inj (by omega) (by omega) hlow
    exact ⟨heq (by omega), hrest⟩

theorem units_injective : Function.Injective units := by
  intro cs
  induction cs with
  | nil =>
    intro ds h
    cases ds with
    | nil => rfl
    | cons d ds => exact absurd (List.append_eq_nil_iff.mp h.symm).1 (unitsOf_ne_nil _)
  | cons c cs ih =>
    intro ds h
    cases ds with
    | nil => exact absurd (List.append_eq_nil_iff.mp h).1 (unitsOf_ne_nil _)
    | cons d ds =>
      rw [units_cons, units_cons] at h
      obtain ⟨rfl, hrest⟩ := unitsOf_append_inj h
      rw [ih hrest]

/-! ## Reading -/

/-- The number that so many hexadecimal digits write behind the digits of another, and the text
behind them. -/
def readHex : Nat → Nat → List Char → Option (Nat × List Char)
  | 0, n, cs => some (n, cs)
  | _ + 1, _, [] => none
  | k + 1, n, c :: cs =>
    match Url.hexDigitValue? c with
    | some digit => readHex k (16 * n + digit) cs
    | none => none

/-- Behind `\u`: four digits for a unit, or digits in braces for a code point. -/
def readUnicodeEscape (cs : List Char) : Option (List UInt16 × List Char) :=
  match cs with
  | '{' :: cs =>
    let digits := cs.takeWhile (· ≠ '}')
    match readHex digits.length 0 cs with
    | some (n, _ :: rest) =>
      if digits = [] ∨ 0x10FFFF < n then none else some (unitsOf n, rest)
    | _ => none
  | cs => (readHex 4 0 cs).map fun (n, rest) => ([.ofNat n], rest)

/-- The unit of an escape of one letter. -/
def letterEscape? (c : Char) : Option UInt16 :=
  if c = '\'' ∨ c = '"' ∨ c = '\\' then some (.ofNat c.toNat)
  else if c = 'b' then some 0x08
  else if c = 'f' then some 0x0C
  else if c = 'n' then some 0x0A
  else if c = 'r' then some 0x0D
  else if c = 't' then some 0x09
  else if c = 'v' then some 0x0B
  else none

/-- Behind a backslash and a character. A line end that is continued stands for nothing, and what
has no meaning of its own stands for itself; digits are left to the zero that no digit follows. -/
def readEscape (c : Char) (cs : List Char) : Option (List UInt16 × List Char) :=
  if endsComment c then
    some ([], if c = '\r' ∧ cs.head? = some '\n' then cs.tail else cs)
  else
    match letterEscape? c with
    | some unit => some ([unit], cs)
    | none =>
      if c = 'x' then (readHex 2 0 cs).map fun (n, rest) => ([.ofNat n], rest)
      else if c = 'u' then readUnicodeEscape cs
      else if c = '0' ∧ cs.head?.all (!·.isDigit) then some ([0], cs)
      else if c.isDigit then none
      else some (unitsOf c.toNat, cs)

/-- A character of a literal, or an escape. -/
def readCharacter (c : Char) (cs : List Char) : Option (List UInt16 × List Char) :=
  if c = '\\' then
    match cs with
    | d :: rest => readEscape d rest
    | [] => none
  else if c = '\n' ∨ c = '\r' then none
  else some (unitsOf c.toNat, cs)

section Length

variable {c : Char} {cs rest : List Char} {us : List UInt16}

theorem length_readHex {k n m : Nat} (h : readHex k n cs = some (m, rest)) :
    rest.length ≤ cs.length := by
  fun_induction readHex k n cs with
  | case1 n cs =>
    obtain ⟨-, rfl⟩ := Prod.mk.inj (Option.some.inj h)
    exact le_rfl
  | case2 => exact absurd h (by simp)
  | case3 k n c cs digit _ ih =>
    have hle := ih h
    exact Nat.le_succ_of_le hle
  | case4 => exact absurd h (by simp)

theorem length_readUnicodeEscape (h : readUnicodeEscape cs = some (us, rest)) :
    rest.length ≤ cs.length := by
  unfold readUnicodeEscape at h
  split at h
  · simp only at h
    split at h
    · next n d behind hhex =>
      split_ifs at h
      obtain ⟨-, rfl⟩ := Prod.mk.inj (Option.some.inj h)
      have hle := length_readHex hhex
      rw [List.length_cons] at hle ⊢
      omega
    · exact absurd h (by simp)
  · obtain ⟨p, hhex, hp⟩ := Option.map_eq_some_iff.mp h
    obtain ⟨-, rfl⟩ := Prod.mk.inj hp
    exact length_readHex hhex

theorem length_readEscape (h : readEscape c cs = some (us, rest)) : rest.length ≤ cs.length := by
  unfold readEscape at h
  split at h
  · obtain ⟨-, rfl⟩ := Prod.mk.inj (Option.some.inj h)
    split_ifs
    · rw [List.length_tail]
      exact Nat.sub_le _ _
    · exact le_rfl
  split at h
  · obtain ⟨-, rfl⟩ := Prod.mk.inj (Option.some.inj h)
    exact le_rfl
  split_ifs at h
  · obtain ⟨p, hhex, hp⟩ := Option.map_eq_some_iff.mp h
    obtain ⟨-, rfl⟩ := Prod.mk.inj hp
    exact length_readHex hhex
  · exact length_readUnicodeEscape h
  all_goals
    obtain ⟨-, rfl⟩ := Prod.mk.inj (Option.some.inj h)
    exact le_rfl

theorem length_readCharacter (h : readCharacter c cs = some (us, rest)) :
    rest.length < (c :: cs).length := by
  unfold readCharacter at h
  rw [List.length_cons]
  split at h
  · split at h
    · next d behind =>
      have hle := length_readEscape h
      rw [List.length_cons]
      omega
    · exact absurd h (by simp)
  · split_ifs at h
    obtain ⟨-, rfl⟩ := Prod.mk.inj (Option.some.inj h)
    exact Nat.lt_succ_self _

end Length

/-- The units up to the quote that ends a literal, and the text behind it. -/
def readCharacters : List Char → Option (List UInt16 × List Char)
  | [] => none
  | c :: cs =>
    if c = '"' then some ([], cs)
    else
      match _ : readCharacter c cs with
      | none => none
      | some (us, behind) =>
        (readCharacters behind).map fun (more, rest) => (us ++ more, rest)
termination_by cs => cs.length
decreasing_by exact length_readCharacter ‹_›

/-- What a literal at the beginning of a text stands for, and the text behind it. -/
def readLiteral : List Char → Option (List UInt16 × List Char)
  | '"' :: cs => readCharacters cs
  | _ => none

/-! ## Reading what was written -/

variable {s : String}

theorem readCharacters_step {c : Char} {cs behind : List Char} {us : List UInt16} (hc : c ≠ '"')
    (h : readCharacter c cs = some (us, behind)) :
    readCharacters (c :: cs) = (readCharacters behind).map fun p => (us ++ p.1, p.2) := by
  rw [readCharacters, if_neg hc]
  split
  · next hnone => rw [h] at hnone; exact absurd hnone (by simp)
  · next us' behind' hsome =>
    rw [h] at hsome
    obtain ⟨rfl, rfl⟩ := Prod.mk.inj (Option.some.inj hsome)
    rfl

/-- A character that was written is read as itself, whatever follows. -/
theorem readCharacters_escapeChar (c : Char) (cs : List Char) :
    readCharacters (escapeChar c ++ cs) =
      (readCharacters cs).map fun p => (unitsOf c.toNat ++ p.1, p.2) := by
  unfold escapeChar
  split_ifs with hquote hslash hfeed hreturn htab
  · subst hquote
    exact readCharacters_step (by decide) rfl
  · subst hslash
    exact readCharacters_step (by decide) rfl
  · subst hfeed
    exact readCharacters_step (by decide) rfl
  · subst hreturn
    exact readCharacters_step (by decide) rfl
  · subst htab
    exact readCharacters_step (by decide) rfl
  · refine readCharacters_step hquote ?_
    have hends : ¬(c = '\n' ∨ c = '\r') := not_or.mpr ⟨hfeed, hreturn⟩
    rw [readCharacter.eq_def, if_neg hslash, if_neg hends]
    rfl

theorem readCharacters_escape (cs rest : List Char) :
    readCharacters (cs.flatMap escapeChar ++ '"' :: rest) = some (units cs, rest) := by
  induction cs with
  | nil =>
    rw [List.flatMap_nil, List.nil_append, readCharacters, if_pos rfl]
    rfl
  | cons c cs ih =>
    rw [List.flatMap_cons, List.append_assoc, readCharacters_escapeChar, ih, units_cons]
    rfl

/-! ## What is inside -/

theorem toList_escape (s : String) : (escape s).toList = s.toList.flatMap escapeChar :=
  String.toList_ofList

theorem toList_literal (s : String) : (literal s).toList = '"' :: (escape s).toList ++ ['"'] := by
  simp [literal]

/-- The number of backslashes at the end of a text. -/
def slashesBehind (cs : List Char) : Nat :=
  (cs.reverse.takeWhile (· = '\\')).length

theorem slashesBehind_slash (cs : List Char) :
    slashesBehind (cs ++ ['\\']) = slashesBehind cs + 1 := by
  simp [slashesBehind]

theorem slashesBehind_other {c : Char} (hc : c ≠ '\\') (cs : List Char) :
    slashesBehind (cs ++ [c]) = 0 := by
  simp [slashesBehind, hc]

/-- What is written for a character keeps backslashes in pairs. -/
theorem even_slashesBehind_escapeChar {front : List Char} (h : Even (slashesBehind front))
    (c : Char) : Even (slashesBehind (front ++ escapeChar c)) := by
  have hpair : ∀ d, d ≠ '\\' → slashesBehind (front ++ ['\\', d]) = 0 := by
    intro d hd
    rw [List.append_cons, slashesBehind_other hd]
  unfold escapeChar
  split_ifs with hquote hslash hfeed hreturn htab
  · rw [hpair '"' (by decide)]
    exact Even.zero
  · rw [List.append_cons, slashesBehind_slash, slashesBehind_slash]
    exact h.add_one.add_one
  · rw [hpair 'n' (by decide)]
    exact Even.zero
  · rw [hpair 'r' (by decide)]
    exact Even.zero
  · rw [hpair 't' (by decide)]
    exact Even.zero
  · rw [slashesBehind_other hslash]
    exact Even.zero

/-- What is written for a character holds a quote behind a backslash only. -/
theorem eq_slash_of_escapeChar {c : Char} {front back : List Char}
    (h : escapeChar c = front ++ '"' :: back) : front = ['\\'] := by
  unfold escapeChar at h
  split_ifs at h with hquote hslash
  · -- the quote is the second of two characters
    cases front with
    | nil => exact absurd (List.cons.inj h).1 (by decide)
    | cons d front =>
      obtain ⟨rfl, hrest⟩ := List.cons.inj h
      cases front with
      | nil => rfl
      | cons e front => exact absurd (List.cons.inj hrest).2 (by simp)
  all_goals
    have hmem : '"' ∈ front ++ '"' :: back := List.mem_append_right _ List.mem_cons_self
    rw [← h] at hmem
    simp at hmem
  exact absurd hmem.symm hquote

/-- A quote is written behind a backslash that is not itself written behind one. -/
theorem odd_slashesBehind {pre front back cs : List Char} (hpre : Even (slashesBehind pre))
    (h : cs.flatMap escapeChar = front ++ '"' :: back) : Odd (slashesBehind (pre ++ front)) := by
  induction cs generalizing pre front with
  | nil => exact absurd h (by simp)
  | cons c cs ih =>
    rw [List.flatMap_cons] at h
    obtain ⟨mid, hfront, hmid⟩ | ⟨mid, hchar, hmid⟩ := List.append_eq_append_iff.mp h
    · rw [hfront, ← List.append_assoc]
      exact ih (even_slashesBehind_escapeChar hpre c) hmid
    · cases mid with
      | nil =>
        rw [List.append_nil] at hchar
        have hrest : cs.flatMap escapeChar = [] ++ '"' :: back := hmid.symm
        rw [← hchar, ← List.append_nil (pre ++ escapeChar c)]
        exact ih (even_slashesBehind_escapeChar hpre c) hrest
      | cons d mid =>
        obtain ⟨rfl, -⟩ := List.cons.inj hmid
        rw [eq_slash_of_escapeChar hchar, slashesBehind_slash]
        exact hpre.add_one

/-! ## Literals -/

/-- A text is one literal, and stands for a string. -/
structure Denotes (text : List Char) (s : String) : Prop where
  /-- It is read to its end, whatever follows. -/
  read (rest : List Char) : readLiteral (text ++ rest) = some (units s.toList, rest)
  /-- It stands for no other string. -/
  only {t : String} (h : readLiteral text = some (units t.toList, [])) : t = s
  /-- Between its quotes, every quote is behind an odd number of backslashes. -/
  escaped : ∃ inside, text = '"' :: inside ++ ['"'] ∧
    ∀ front back, inside = front ++ '"' :: back → Odd (slashesBehind front)
  /-- It is on one line. -/
  feed : '\n' ∉ text
  carriage : '\r' ∉ text

/-- The literal of a string stands for the string. -/
theorem denotes_literal (s : String) : Denotes (literal s).toList s := by
  have hread : ∀ rest, readLiteral ((literal s).toList ++ rest) = some (units s.toList, rest) := by
    intro rest
    rw [toList_literal, List.append_assoc, List.cons_append, toList_escape]
    exact readCharacters_escape s.toList rest
  have hline : ∀ c, c = '\n' ∨ c = '\r' → c ∉ (literal s).toList := by
    intro c hc hmem
    rw [toList_literal, List.mem_append, List.mem_cons, List.mem_singleton] at hmem
    have hquote : c ≠ '"' := by rcases hc with rfl | rfl <;> decide
    rcases hmem with (rfl | hmem) | rfl
    · exact hquote rfl
    · exact notMem_escape hc s hmem
    · exact hquote rfl
  exact {
    read := hread
    only := by
      intro t ht
      have hs := hread []
      rw [List.append_nil, ht] at hs
      exact String.toList_inj.mp (units_injective (Prod.mk.inj (Option.some.inj hs)).1)
    escaped := by
      refine ⟨(escape s).toList, toList_literal s, fun front back h => ?_⟩
      rw [toList_escape] at h
      have hnone : Even (slashesBehind []) := Even.zero
      exact odd_slashesBehind hnone h
    feed := hline '\n' (.inl rfl)
    carriage := hline '\r' (.inr rfl) }

/-- A text that would end the literal and go on behind it. -/
example : literal "\\\");f(\"" = "\"\\\\\\\");f(\\\"\"" := by decide

theorem Denotes.unique {text : List Char} {s t : String} (hs : Denotes text s)
    (ht : Denotes text t) : s = t := by
  have hread := hs.read []
  rw [List.append_nil] at hread
  exact ht.only hread

theorem escape_injective : Function.Injective escape := by
  intro s t h
  have hliteral : literal s = literal t := by rw [literal, literal, h]
  have ht := denotes_literal t
  rw [← hliteral] at ht
  exact (denotes_literal s).unique ht

end AppBundle.Code
