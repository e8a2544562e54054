import AppBundle.Json.Draft
import AppBundle.Proofs.Except
import AppBundle.Proofs.Text.Numeral
import Mathlib.Tactic.Common
import Mathlib.Tactic.Ring
import Mathlib.Tactic.SplitIfs

/-!
# Reading numbers that were written

The text of a number is a *literal*: digits, perhaps with a fraction and a power of ten. A literal
is read exactly (`readNumber_literal`), so the text of a number gives a number with the same text
(`Number.text_written`): a decimal may have a zero more behind its digits, and a whole number beyond
64 bits becomes a decimal.
-/

namespace AppBundle.Json

open AppBundle.Text

/-- What may follow a value: nothing, or what separates or closes values. -/
def Stops (rest : List Char) : Prop :=
  ∀ c, rest.head? = some c → c = ',' ∨ c = ']' ∨ c = '}'

theorem Stops.nil : Stops [] := by
  intro c h
  exact absurd h (by simp)

theorem Stops.cons {c : Char} {rest : List Char} (h : c = ',' ∨ c = ']' ∨ c = '}') :
    Stops (c :: rest) := by
  intro d hd
  obtain rfl := Option.some.inj hd
  exact h

/-! ## Digits -/

/-- The characters are digits. -/
def AllDigits (ds : List Char) : Prop :=
  ∀ c ∈ ds, c.isDigit = true

/-- No digit follows. -/
def EndsDigits (rest : List Char) : Prop :=
  ∀ c, rest.head? = some c → c.isDigit = false

variable {ds rest : List Char} {n : Nat}

theorem Stops.endsDigits (h : Stops rest) : EndsDigits rest := by
  intro c hc
  rcases h c hc with rfl | rfl | rfl <;> decide

theorem EndsDigits.cons {c : Char} (hc : c.isDigit = false) (rest : List Char) :
    EndsDigits (c :: rest) := by
  intro d hd
  obtain rfl := Option.some.inj hd
  exact hc

theorem numeral_ne_nil (n : Nat) : numeral n ≠ [] :=
  Nat.toDigits_ne_nil

theorem allDigits_numeral (n : Nat) : AllDigits (numeral n) :=
  fun _ hc => isDigit_of_mem_numeral hc

theorem allDigits_replicate (k : Nat) : AllDigits (List.replicate k '0') := by
  intro c hc
  rw [List.eq_of_mem_replicate hc]
  decide

theorem AllDigits.append {es : List Char} (hds : AllDigits ds) (hes : AllDigits es) :
    AllDigits (ds ++ es) :=
  List.forall_mem_append.mpr ⟨hds, hes⟩

/-- Digits are taken up to what follows them. -/
theorem takeWhile_digits (hds : AllDigits ds) (hrest : EndsDigits rest) :
    (ds ++ rest).takeWhile Char.isDigit = ds ∧ (ds ++ rest).dropWhile Char.isDigit = rest := by
  have hstop : rest.takeWhile Char.isDigit = [] ∧ rest.dropWhile Char.isDigit = rest := by
    cases rest with
    | nil => exact ⟨rfl, rfl⟩
    | cons c rest =>
      have hc : ¬ c.isDigit = true := by simp [hrest c rfl]
      exact ⟨List.takeWhile_cons_of_neg hc, List.dropWhile_cons_of_neg hc⟩
  constructor
  · rw [List.takeWhile_append_of_pos hds, hstop.1, List.append_nil]
  · rw [List.dropWhile_append_of_pos hds, hstop.2]

theorem digitsValue_numeral (n : Nat) : digitsValue (numeral n) = n := by
  have h := Nat.ofDigitChars_toDigits (b := 10) (n := n) (by decide) (by decide)
  rw [Nat.ofDigitChars_eq_foldl] at h
  rw [digitsValue, numeral]
  simpa only [Nat.mul_comm] using h

theorem foldl_digits (ds : List Char) (m : Nat) :
    ds.foldl (fun n d => n * 10 + (d.toNat - '0'.toNat)) m =
      m * 10 ^ ds.length + digitsValue ds := by
  induction ds generalizing m with
  | nil => simp [digitsValue]
  | cons c ds ih =>
    have hcons : digitsValue (c :: ds) =
        (0 * 10 + (c.toNat - '0'.toNat)) * 10 ^ ds.length + digitsValue ds := ih _
    rw [List.foldl_cons, ih, hcons, List.length_cons]
    ring

/-- Digits in front count for more by the places behind them. -/
theorem digitsValue_append (ds es : List Char) :
    digitsValue (ds ++ es) = digitsValue ds * 10 ^ es.length + digitsValue es := by
  rw [← foldl_digits, digitsValue, digitsValue, List.foldl_append]

theorem digitsValue_replicate (k : Nat) : digitsValue (List.replicate k '0') = 0 := by
  induction k with
  | zero => rfl
  | succ k ih => rw [List.replicate_succ', digitsValue_append, ih]; rfl

/-- Only zero is written with a zero in front. -/
theorem eq_nil_of_numeral_eq {n : Nat} {ds : List Char} (h : numeral n = '0' :: ds) : ds = [] := by
  induction n using Nat.strongRecOn generalizing ds with
  | _ n ih =>
    by_cases hn : n < 10
    · rw [numeral, Nat.toDigits_of_lt_base hn] at h
      exact (List.cons.inj h).2.symm
    · rw [numeral, Nat.toDigits_of_base_le (by decide) (by omega)] at h
      cases hfront : Nat.toDigits 10 (n / 10) with
      | nil => exact absurd hfront Nat.toDigits_ne_nil
      | cons c cs =>
        rw [hfront] at h
        obtain ⟨rfl, -⟩ := List.cons.inj h
        have hcs := ih (n / 10) (by omega) hfront
        have hvalue := digitsValue_numeral (n / 10)
        rw [numeral, hfront, hcs] at hvalue
        have hzero : digitsValue ['0'] = 0 := by decide
        omega

/-! ## Literals -/

/-- A number without its sign as it is written: the digits before the point, those behind it, and
the power of ten. -/
structure Literal where
  /-- The digits before the point. -/
  whole : List Char
  /-- The digits behind the point, if there is one. -/
  fraction : Option (List Char)
  /-- The power of ten, if there is one. -/
  scale : Option Int

/-- Digits before a point: a zero stands alone. -/
def IsWhole (ds : List Char) : Prop :=
  ds = ['0'] ∨ ∃ c cs, ds = c :: cs ∧ c ≠ '0' ∧ AllDigits ds

theorem isWhole_numeral (n : Nat) : IsWhole (numeral n) := by
  cases hn : numeral n with
  | nil => exact absurd hn (numeral_ne_nil n)
  | cons c cs =>
    by_cases hc : c = '0'
    · subst hc
      rw [eq_nil_of_numeral_eq hn]
      exact .inl rfl
    · exact .inr ⟨c, cs, rfl, hc, hn ▸ allDigits_numeral n⟩

theorem IsWhole.allDigits (h : IsWhole ds) : AllDigits ds := by
  rcases h with rfl | ⟨c, cs, rfl, -, hall⟩
  · intro c hc
    rw [List.mem_singleton.mp hc]
    decide
  · exact hall

theorem IsWhole.exists_cons (h : IsWhole ds) : ∃ c cs, ds = c :: cs ∧ c.isDigit = true := by
  rcases h with rfl | ⟨c, cs, rfl, -, hall⟩
  · exact ⟨'0', [], rfl, by decide⟩
  · exact ⟨c, cs, rfl, hall c List.mem_cons_self⟩

namespace Literal

/-- Where there is a point, digits stand before it and behind it. -/
structure Valid (l : Literal) : Prop where
  whole : IsWhole l.whole
  fraction : ∀ ds ∈ l.fraction, ds ≠ [] ∧ AllDigits ds

/-- The text of a power of ten. -/
def scaleText : Option Int → List Char
  | none => []
  | some e => 'e' :: (if e < 0 then '-' else '+') :: numeral e.natAbs

/-- The text of digits behind a point. -/
def fractionText : Option (List Char) → List Char
  | none => []
  | some ds => '.' :: ds

/-- The text of a literal. -/
def text (l : Literal) : List Char :=
  l.whole ++ (fractionText l.fraction ++ scaleText l.scale)

/-- The number that a literal writes. -/
def number (l : Literal) (negative : Bool) : Number :=
  match l.fraction, l.scale with
  | none, none => .ofWhole negative (digitsValue l.whole)
  | fraction, scale =>
    .decimal negative (digitsValue (l.whole ++ fraction.getD []))
      (scale.getD 0 - (fraction.getD []).length)

/-- The text of a literal begins with a digit. -/
theorem Valid.exists_cons {l : Literal} (h : l.Valid) :
    ∃ c cs, l.text = c :: cs ∧ c.isDigit = true := by
  obtain ⟨c, cs, hcons, hc⟩ := h.whole.exists_cons
  exact ⟨c, _, by rw [text, hcons, List.cons_append], hc⟩

end Literal

theorem readWhole_of_isWhole (h : IsWhole ds) (hrest : EndsDigits rest) :
    readWhole (ds ++ rest) = .ok (ds, rest) := by
  rcases h with rfl | ⟨c, cs, rfl, hc, hall⟩
  · cases rest with
    | nil => rfl
    | cons d rest =>
      have hd : d.isDigit = false := hrest d rfl
      simp only [List.cons_append, List.nil_append, readWhole, hd, Bool.false_eq_true, if_false]
  · obtain ⟨htake, hdrop⟩ := takeWhile_digits
      (fun d hd => hall d (List.mem_cons_of_mem c hd)) hrest
    rw [List.cons_append, readWhole]
    · rw [if_pos (hall c List.mem_cons_self), htake, hdrop]
    · exact fun h => hc h

theorem readFraction_none (h : rest.head? ≠ some '.') : readFraction rest = .ok (none, rest) := by
  unfold readFraction
  split
  · exact absurd rfl h
  · rfl

theorem readFraction_some (hne : ds ≠ []) (hds : AllDigits ds) (hrest : EndsDigits rest) :
    readFraction ('.' :: (ds ++ rest)) = .ok (some ds, rest) := by
  obtain ⟨htake, hdrop⟩ := takeWhile_digits hds hrest
  rw [readFraction, htake, hdrop]
  split
  · exact absurd rfl hne
  · exact absurd rfl hne
  · rfl

theorem readExponent_numeral (e : Int) (hrest : EndsDigits rest) :
    readExponent ((if e < 0 then '-' else '+') :: (numeral e.natAbs ++ rest)) = .ok (e, rest) := by
  obtain ⟨htake, hdrop⟩ := takeWhile_digits (allDigits_numeral e.natAbs) hrest
  obtain ⟨c, cs, hcons⟩ : ∃ c cs, numeral e.natAbs = c :: cs :=
    List.exists_cons_of_ne_nil (numeral_ne_nil _)
  have hvalue := digitsValue_numeral e.natAbs
  rw [hcons] at htake hdrop hvalue
  by_cases he : e < 0
  · simp only [if_pos he, readExponent, hcons, htake, hdrop, hvalue, if_true]
    rw [show -(e.natAbs : Int) = e by omega]
  · simp only [if_neg he, readExponent, hcons, htake, hdrop, hvalue, Bool.false_eq_true, if_false]
    rw [show (e.natAbs : Int) = e by omega]

theorem readScale_scaleText (scale : Option Int) (hrest : Stops rest) :
    readScale (Literal.scaleText scale ++ rest) = .ok (scale, rest) := by
  cases scale with
  | none =>
    cases rest with
    | nil => rfl
    | cons c rest => rcases hrest c rfl with rfl | rfl | rfl <;> rfl
  | some e =>
    rw [Literal.scaleText, List.cons_append, List.cons_append, readScale, if_pos (by decide),
      readExponent_numeral e hrest.endsDigits]
    rfl

/-- No digit and no point stands where a power of ten may. -/
theorem head?_scaleText (scale : Option Int) (hrest : Stops rest) :
    EndsDigits (Literal.scaleText scale ++ rest) ∧
      (Literal.scaleText scale ++ rest).head? ≠ some '.' := by
  cases scale with
  | none =>
    refine ⟨hrest.endsDigits, fun h => ?_⟩
    rcases hrest '.' h with h | h | h <;> exact absurd h (by decide)
  | some e => exact ⟨.cons (by decide) _, by simp [Literal.scaleText]⟩

/-- A literal is read as the number that it writes. -/
theorem readNumber_literal (negative : Bool) {l : Literal} (hl : l.Valid) (hrest : Stops rest) :
    readNumber negative (l.text ++ rest) = .ok (l.number negative, rest) := by
  obtain ⟨hdigits, hpoint⟩ := head?_scaleText l.scale hrest
  have htext : l.text ++ rest =
      l.whole ++ (Literal.fractionText l.fraction ++ (Literal.scaleText l.scale ++ rest)) := by
    simp [Literal.text]
  have hscale := readScale_scaleText l.scale hrest
  rw [htext, readNumber]
  cases hf : l.fraction with
  | none =>
    -- a whole number, with or without a scale
    rw [Literal.fractionText, List.nil_append, readWhole_of_isWhole hl.whole hdigits, ok_bind]
    dsimp only
    rw [readFraction_none hpoint, ok_bind]
    dsimp only
    rw [hscale, ok_bind, Literal.number, hf]
    cases l.scale <;> rfl
  | some ds =>
    -- a fraction follows
    obtain ⟨hne, hall⟩ := hl.fraction ds hf
    rw [Literal.fractionText, List.cons_append,
      readWhole_of_isWhole hl.whole (.cons (by decide) _), ok_bind]
    dsimp only
    rw [readFraction_some hne hall hdigits, ok_bind]
    dsimp only
    rw [hscale, ok_bind, Literal.number, hf]
    rfl

/-! ## The text of a number -/

namespace Number

/-- The number that the text of a number gives. A decimal is read without the zeros that end its
digits, or with a zero behind its point if there is nothing else there. -/
def written : Number → Number
  | .integer i => .ofWhole (i < 0) i.natAbs
  | .decimal negative digits power =>
    if digits = 0 then .decimal negative 0 (-1)
    else
      let (digits, power) := Binary64.dropZeros digits power
      if 0 ≤ power ∧ (numeral digits).length + power ≤ 16 then
        .decimal negative (digits * 10 ^ (power.toNat + 1)) (-1)
      else .decimal negative digits power

/-- Whether the text of a number begins with a minus. -/
def isNegative : Number → Bool
  | .integer i => i < 0
  | .decimal negative _ _ => negative

end Number

/-- Digits laid out are a literal. -/
def layoutLiteral (ds : List Char) (power : Int) : Literal :=
  let places := (ds.length : Int) + power
  if 0 ≤ power ∧ places ≤ 16 then
    ⟨ds ++ List.replicate power.toNat '0', some ['0'], none⟩
  else if 0 < places ∧ places ≤ 16 then
    ⟨ds.take places.toNat, some (ds.drop places.toNat), none⟩
  else if -5 < places ∧ places ≤ 0 then
    ⟨['0'], some (List.replicate (-places).toNat '0' ++ ds), none⟩
  else
    match ds with
    | [d] => ⟨[d], none, some (places - 1)⟩
    | _ => ⟨ds.take 1, some (ds.drop 1), some (places - 1)⟩

/-- Digits of a number other than zero. -/
def Leads (ds : List Char) : Prop :=
  ∃ c cs, ds = c :: cs ∧ c ≠ '0' ∧ AllDigits ds

theorem leads_numeral {n : Nat} (hn : n ≠ 0) : Leads (numeral n) := by
  rcases isWhole_numeral n with hzero | h
  · have hvalue := digitsValue_numeral n
    rw [hzero] at hvalue
    exact absurd hvalue.symm hn
  · exact h

section Layout

variable {power : Int}

theorem text_layoutLiteral (hne : ds ≠ []) :
    (layoutLiteral ds power).text = Number.layout ds power := by
  unfold layoutLiteral Number.layout
  dsimp only
  by_cases hpositional : 0 ≤ power ∧ (ds.length : Int) + power ≤ 16
  · rw [if_pos hpositional, if_pos hpositional]
    simp [Literal.text, Literal.fractionText, Literal.scaleText]
  rw [if_neg hpositional, if_neg hpositional]
  by_cases hpoint : 0 < (ds.length : Int) + power ∧ (ds.length : Int) + power ≤ 16
  · rw [if_pos hpoint, if_pos hpoint]
    simp [Literal.text, Literal.fractionText, Literal.scaleText]
  rw [if_neg hpoint, if_neg hpoint]
  by_cases hsmall : -5 < (ds.length : Int) + power ∧ (ds.length : Int) + power ≤ 0
  · rw [if_pos hsmall, if_pos hsmall]
    simp [Literal.text, Literal.fractionText, Literal.scaleText]
  rw [if_neg hsmall, if_neg hsmall]
  rcases ds with _ | ⟨d, _ | ⟨e, more⟩⟩
  · exact absurd rfl hne
  all_goals rfl

theorem valid_layoutLiteral (hds : Leads ds) : (layoutLiteral ds power).Valid := by
  obtain ⟨c, cs, hcons, hc, hall⟩ := hds
  have hfirst : ∀ k, 0 < k → IsWhole (ds.take k) := by
    intro k hk
    obtain ⟨k, rfl⟩ := Nat.exists_eq_succ_of_ne_zero (Nat.ne_of_gt hk)
    exact .inr ⟨c, cs.take k, by rw [hcons]; rfl, hc, fun d hd => hall d (List.mem_of_mem_take hd)⟩
  have hrest : ∀ k, k < ds.length → ds.drop k ≠ [] ∧ AllDigits (ds.drop k) := by
    intro k hk
    refine ⟨fun h => ?_, fun d hd => hall d (List.mem_of_mem_drop hd)⟩
    rw [List.drop_eq_nil_iff] at h
    omega
  unfold layoutLiteral
  dsimp only
  split_ifs with hpositional hpoint hsmall
  · -- zeros behind the digits
    refine ⟨.inr ⟨c, cs ++ List.replicate power.toNat '0', by rw [hcons]; rfl, hc, ?_⟩, ?_⟩
    · exact hall.append (allDigits_replicate _)
    · intro es hes
      obtain rfl := Option.some.inj hes
      exact ⟨by simp, allDigits_replicate 1⟩
  · -- a point among the digits
    refine ⟨hfirst _ (by omega), ?_⟩
    intro es hes
    obtain rfl := Option.some.inj hes
    exact hrest _ (by omega)
  · -- zeros in front of the digits
    refine ⟨.inl rfl, ?_⟩
    intro es hes
    obtain rfl := Option.some.inj hes
    exact ⟨by simp [hcons], (allDigits_replicate _).append hall⟩
  · -- a scale behind the digits
    split
    · next d => exact ⟨hfirst 1 (by omega), fun es hes => absurd hes (by simp)⟩
    · next hmany =>
      refine ⟨hfirst 1 (by omega), ?_⟩
      intro es hes
      obtain rfl := Option.some.inj hes
      refine hrest 1 ?_
      rcases cs with _ | ⟨e, more⟩
      · exact absurd hcons (hmany c)
      · simp [hcons]

theorem number_layoutLiteral (hne : ds ≠ []) (negative : Bool) :
    (layoutLiteral ds power).number negative =
      if 0 ≤ power ∧ ds.length + power ≤ 16 then
        .decimal negative (digitsValue ds * 10 ^ (power.toNat + 1)) (-1)
      else .decimal negative (digitsValue ds) power := by
  unfold layoutLiteral
  dsimp only
  by_cases hpositional : 0 ≤ power ∧ (ds.length : Int) + power ≤ 16
  · -- zeros behind the digits, and one behind the point
    rw [if_pos hpositional, if_pos hpositional]
    have hvalue : digitsValue (ds ++ List.replicate power.toNat '0' ++ ['0']) =
        digitsValue ds * 10 ^ (power.toNat + 1) := by
      rw [List.append_assoc, ← List.replicate_succ', digitsValue_append, digitsValue_replicate,
        List.length_replicate, Nat.add_zero]
    rw [← hvalue]
    rfl
  rw [if_neg hpositional, if_neg hpositional]
  by_cases hpoint : 0 < (ds.length : Int) + power ∧ (ds.length : Int) + power ≤ 16
  · -- a point among the digits
    rw [if_pos hpoint]
    simp only [Literal.number, Option.getD_some, Option.getD_none, List.take_append_drop,
      List.length_drop]
    congr 1
    omega
  rw [if_neg hpoint]
  by_cases hsmall : -5 < (ds.length : Int) + power ∧ (ds.length : Int) + power ≤ 0
  · -- zeros in front of the digits
    rw [if_pos hsmall]
    simp only [Literal.number, Option.getD_some, Option.getD_none, List.length_append,
      List.length_replicate]
    have hzero : digitsValue ['0'] = 0 := rfl
    rw [digitsValue_append, digitsValue_append, digitsValue_replicate, hzero, Nat.zero_mul,
      Nat.zero_mul, Nat.zero_add, Nat.zero_add]
    congr 1
    omega
  rw [if_neg hsmall]
  -- a scale behind the digits
  rcases ds with _ | ⟨d, _ | ⟨e, more⟩⟩
  · exact absurd rfl hne
  · simp only [Literal.number, Option.getD_some, Option.getD_none, List.append_nil,
      List.length_cons, List.length_nil]
    congr 1
    omega
  · simp only [Literal.number, Option.getD_some, List.take_append_drop, List.length_drop,
      List.length_cons]
    congr 1
    omega

end Layout

namespace Number

/-- The literal that the text of a number is behind its sign. -/
def literal : Number → Literal
  | .integer i => ⟨numeral i.natAbs, none, none⟩
  | .decimal _ digits power =>
    if digits = 0 then ⟨['0'], some ['0'], none⟩
    else
      let (digits, power) := Binary64.dropZeros digits power
      layoutLiteral (numeral digits) power

theorem dropZeros_of_mod {a : Nat} (h : a % 10 ≠ 0) (k : Int) :
    Binary64.dropZeros a k = (a, k) := by
  rw [Binary64.dropZeros, if_neg fun hzero => h hzero.2]

/-- What is left when the zeros are dropped does not end in a zero. -/
theorem mod_dropZeros {a : Nat} (ha : a ≠ 0) (k : Int) : (Binary64.dropZeros a k).1 % 10 ≠ 0 := by
  induction a using Nat.strongRecOn generalizing k with
  | _ a ih =>
    rw [Binary64.dropZeros]
    by_cases h : a ≠ 0 ∧ a % 10 = 0
    · rw [if_pos h]
      exact ih (a / 10) (by omega) (by omega) (k + 1)
    · rw [if_neg h]
      exact fun hmod => h ⟨ha, hmod⟩

/-- Zeros that are put behind the digits are dropped again. -/
theorem dropZeros_mul_pow {a : Nat} (ha : a ≠ 0) (n : Nat) (k : Int) :
    Binary64.dropZeros (a * 10 ^ n) k = Binary64.dropZeros a (k + n) := by
  induction n generalizing k with
  | zero => simp
  | succ n ih =>
    have hpow : a * 10 ^ (n + 1) = a * 10 ^ n * 10 := by rw [Nat.pow_succ, Nat.mul_assoc]
    have hpos : 0 < 10 ^ n := Nat.pow_pos (by decide)
    have hne : a * 10 ^ n * 10 ≠ 0 :=
      Nat.mul_ne_zero (Nat.mul_ne_zero ha (Nat.ne_of_gt hpos)) (by decide)
    rw [hpow, Binary64.dropZeros, if_pos ⟨hne, Nat.mul_mod_left _ _⟩,
      Nat.mul_div_cancel _ (by decide), ih]
    congr 1
    push_cast
    ring

/-- The digits of a decimal that are written are those of a number other than zero. -/
theorem leads_dropZeros {digits : Nat} (h : digits ≠ 0) (power : Int) :
    Leads (numeral (Binary64.dropZeros digits power).1) := by
  have hmod := mod_dropZeros h power
  exact leads_numeral fun hzero => hmod (by rw [hzero])

/-- The text of a number is the text of a literal behind its sign. -/
theorem text_eq (n : Number) :
    n.text = (if n.isNegative then ['-'] else []) ++ n.literal.text := by
  cases n with
  | integer i =>
    by_cases hi : i < 0 <;>
      simp [text, signedDecimal, hi, isNegative, literal, Literal.text, Literal.fractionText,
        Literal.scaleText, AppBundle.decimal]
  | decimal negative digits power =>
    rw [text, literal]
    by_cases hzero : digits = 0
    · rw [if_pos hzero, if_pos hzero]
      rfl
    · rw [if_neg hzero, if_neg hzero]
      dsimp only
      rw [text_layoutLiteral (numeral_ne_nil _)]
      rfl

theorem valid_literal (n : Number) : n.literal.Valid := by
  cases n with
  | integer i => exact ⟨isWhole_numeral _, fun ds h => absurd h (by simp [literal])⟩
  | decimal negative digits power =>
    rw [literal]
    by_cases hzero : digits = 0
    · rw [if_pos hzero]
      refine ⟨.inl rfl, fun ds hds => ?_⟩
      obtain rfl := Option.some.inj hds
      exact ⟨by simp, allDigits_replicate 1⟩
    · rw [if_neg hzero]
      exact valid_layoutLiteral (leads_dropZeros hzero power)

/-- The literal writes the number that the text gives. -/
theorem number_literal (n : Number) : n.literal.number n.isNegative = n.written := by
  cases n with
  | integer i => rw [literal, Literal.number, digitsValue_numeral, isNegative, written]
  | decimal negative digits power =>
    rw [literal, written]
    by_cases hzero : digits = 0
    · rw [if_pos hzero, if_pos hzero]
      rfl
    · rw [if_neg hzero, if_neg hzero]
      dsimp only
      rw [number_layoutLiteral (numeral_ne_nil _), digitsValue_numeral]
      rfl

/-- Whole numbers of JSON texts fit 64 bits, with or without a sign. -/
def InRange : Number → Prop
  | .integer i => minSigned64 ≤ i ∧ i ≤ maxWord64
  | .decimal _ _ _ => True

theorem text_decimal {negative : Bool} {digits : Nat} (h : digits ≠ 0) (power : Int) :
    text (.decimal negative digits power) = (if negative then ['-'] else []) ++
      layout (numeral (Binary64.dropZeros digits power).1)
        (Binary64.dropZeros digits power).2 := by
  rw [text, if_neg h]

theorem written_integer {i : Int} (h : InRange (.integer i)) : written (.integer i) = .integer i := by
  have hmin : minSigned64 = -9223372036854775808 := rfl
  have hmax : maxWord64 = 18446744073709551615 := rfl
  obtain ⟨hlow, hhigh⟩ := h
  by_cases hi : i < 0
  · have hfits : ¬ (i.natAbs = 0 ∨ (i.natAbs : Int) > -minSigned64) := by omega
    have hback : -(i.natAbs : Int) = i := by omega
    simp only [written, ofWhole, hi, decide_true, if_true, if_neg hfits, hback]
  · have hfits : i.natAbs ≤ maxWord64 := by omega
    have hback : (i.natAbs : Int) = i := by omega
    simp only [written, ofWhole, hi, decide_false, Bool.false_eq_true, if_false, if_pos hfits, hback]

/-- The number that a text gives has the same text, unless it is a whole number that is out of
range. -/
theorem text_written {n : Number} (hn : n.InRange) : n.written.text = n.text := by
  cases n with
  | integer i => rw [written_integer hn]
  | decimal negative digits power =>
    rw [written]
    by_cases hzero : digits = 0
    · rw [if_pos hzero, hzero]
      rfl
    rw [if_neg hzero]
    dsimp only
    have hmod := mod_dropZeros hzero power
    have hne : (Binary64.dropZeros digits power).1 ≠ 0 := fun h => hmod (by rw [h])
    have hkept := dropZeros_of_mod hmod
    split
    · next hpositional =>
      have hpos : 0 < 10 ^ ((Binary64.dropZeros digits power).2.toNat + 1) :=
        Nat.pow_pos (by decide)
      have hpower : (-1 : Int) + ((Binary64.dropZeros digits power).2.toNat + 1 : Nat) =
          (Binary64.dropZeros digits power).2 := by omega
      rw [text_decimal (Nat.mul_ne_zero hne (Nat.ne_of_gt hpos)), dropZeros_mul_pow hne, hpower,
        hkept, text_decimal hzero]
    · rw [text_decimal hne, hkept, text_decimal hzero]

end Number

end AppBundle.Json
