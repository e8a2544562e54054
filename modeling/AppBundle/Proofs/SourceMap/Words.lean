import AppBundle.Json.Number
import AppBundle.Proofs.SourceMap.Grammar
import AppBundle.Proofs.Text.Bytes
import AppBundle.Proofs.Text.Lines

/-!
# Mappings on machine words

The reading of mappings, done on bytes and on machine words. Here every sum, shift and negation may
be out of range and every item of a list may be missing; where that happens there is nothing to go
on with. It never happens: on every text that fits into memory, what comes out are the mappings or
the fault that are read with numbers of any size (`readMappings_onWords`).
-/

namespace AppBundle.SourceMap

open AppBundle.Text
open AppBundle.Json.Number (minSigned64 maxSigned64)

/-! ## Words -/

/-- What comes of a step on machine words: a result or a fault, or nothing where a number is out of
range or an item is missing. -/
abbrev OnWords := ExceptT MappingFault Option

/-- A number of an unsigned word. -/
def word (max n : Nat) : Option Nat :=
  if n ≤ max then some n else none

/-- A number of a signed word of 64 bits. -/
def signed64 (n : Int) : Option Int :=
  if minSigned64 ≤ n ∧ n ≤ maxSigned64 then some n else none

/-- How far a byte is behind another, counted on from a number. -/
def distance (b first : UInt8) (base : Nat) : Option Nat :=
  if first ≤ b then word 255 (b.toNat - first.toNat + base) else none

/-- The value of a digit, by its byte. -/
def digitIn (b : UInt8) : Option (Option Nat) :=
  if 65 ≤ b ∧ b ≤ 90 then (distance b 65 0).map some
  else if 97 ≤ b ∧ b ≤ 122 then (distance b 97 26).map some
  else if 48 ≤ b ∧ b ≤ 57 then (distance b 48 52).map some
  else if b = 43 then some (some 62)
  else if b = 47 then some (some 63)
  else some none

/-- A number shifted to the left. -/
def shiftLeft64 (n : Int) (k : Nat) : Option Int :=
  if k < 64 then signed64 (n * 2 ^ k) else none

/-- The number that digits make up: the lowest bit is the sign. -/
def signedIn (value : Int) : Option Int :=
  if value % 2 = 1 then signed64 (-(value / 2)) else some (value / 2)

/-- An item of a list. -/
def item (fields : List Int) (k : Nat) : Option Int :=
  fields[k]?

/-- The fields of a segment, by its bytes. The next digit is shifted by `shift`, and `value` is what
the digits of the present number make up so far. -/
def fieldsIn (next shift : Nat) (value : Int) : List UInt8 → OnWords (List Int)
  | [] => do
    if shift = 0 then return [] else throw (.truncated (← word maxWord64 next))
  | b :: rest => do
    let offset ← word maxWord64 next
    let digit ← digitIn b
    match digit with
    | none => throw (.character (Char.ofNat b.toNat) offset)
    | some d =>
      if 60 ≤ shift then throw (.overflow offset)
      else
        let value ← signed64 (value + (← shiftLeft64 (d % 32 : Nat) shift))
        if 32 ≤ d then fieldsIn (offset + 1) (← word maxWord32 (shift + 5)) value rest
        else
          let field ← signedIn value
          let fields ← fieldsIn (offset + 1) 0 0 rest
          return field :: fields

/-- A total with a field added. A sum that takes more than 64 bits is a fault. -/
def addIn (field : MappingField) (line offset total : Nat) (delta : Int) : OnWords Nat :=
  match signed64 (total + delta) with
  | none => throw (.overflow offset)
  | some next => if next < 0 then throw (.negative field line) else return next.toNat

/-- A total in 32 bits. -/
def word32In (offset total : Nat) : OnWords Nat :=
  match word maxWord32 total with
  | none => throw (.overflow offset)
  | some n => return n

/-- The totals behind a segment with the given fields, and the segment they make up. -/
def applyIn (t : Totals) (line offset : Nat) (fields : List Int) : OnWords (Totals × Segment) := do
  let column ← addIn .column line offset t.column (← item fields 0)
  let t := { t with column }
  if fields.length = 1 then
    return (t, ⟨← word32In offset t.column, none⟩)
  else if fields.length = 4 ∨ fields.length = 5 then
    let source ← addIn .source line offset t.source (← item fields 1)
    let sourceLine ← addIn .sourceLine line offset t.line (← item fields 2)
    let sourceColumn ← addIn .sourceColumn line offset t.sourceColumn (← item fields 3)
    let t := { t with source, line := sourceLine, sourceColumn }
    if fields.length = 5 then
      let name ← addIn .name line offset t.name (← item fields 4)
      let t := { t with name }
      let name ← word32In offset t.name
      let place : SegmentOrigin :=
        ⟨← word32In offset t.source, ← word32In offset t.line, ← word32In offset t.sourceColumn,
          some name⟩
      return (t, ⟨← word32In offset t.column, some place⟩)
    else
      let place : SegmentOrigin :=
        ⟨← word32In offset t.source, ← word32In offset t.line, ← word32In offset t.sourceColumn,
          none⟩
      return (t, ⟨← word32In offset t.column, some place⟩)
  else throw (.fields fields.length)

/-- The segments of the pieces of a line that begin at a byte. -/
def piecesIn (line : Nat) : Totals → Nat → List (List Char) → OnWords (Totals × List Segment)
  | t, _, [] => return (t, [])
  | t, offset, piece :: rest => do
    if piece.isEmpty then piecesIn line t (← word maxWord64 (offset + 1)) rest
    else
      let fields ← fieldsIn offset 0 0 (encode piece)
      let next ← word maxWord64 (offset + byteLength piece + 1)
      let (t, segment) ← applyIn t line offset fields
      let (t, segments) ← piecesIn line t next rest
      return (t, segment :: segments)

/-- The segments of the lines behind some others. -/
def linesIn : Totals → Nat → Nat → List (List Char) → OnWords (List (List Segment))
  | _, _, _, [] => return []
  | t, index, offset, line :: rest => do
    let number ← word maxWord64 (index + 1)
    let (t, segments) ←
      piecesIn (min number maxWord32) { t with column := 0 } offset (split ',' line)
    let offset ← word maxWord64 (offset + byteLength line + 1)
    let lines ← linesIn t number offset rest
    return segments :: lines

/-- The mappings that a text holds. -/
def readMappingsIn (text : String) : OnWords Mappings := do
  let lines ← linesIn .zero 0 0 (split ';' text.toList)
  return ⟨lines⟩

/-! ## Steps in range -/

/-- On words there is the same result or the same fault. -/
def Yields {α : Type} (x : OnWords α) (e : Except MappingFault α) : Prop :=
  x.run = some e

namespace Yields

variable {α β : Type}

theorem pure (a : α) : Yields (Pure.pure a) (.ok a) := rfl

theorem throw (fault : MappingFault) : Yields (throw fault : OnWords α) (.error fault) := rfl

/-- One step after the other. -/
theorem bind {x : OnWords α} {e : Except MappingFault α} {f : α → OnWords β}
    {g : α → Except MappingFault β} (hx : Yields x e) (hf : ∀ a, e = .ok a → Yields (f a) (g a)) :
    Yields (x >>= f) (e >>= g) := by
  unfold Yields at hx
  rw [Yields, ExceptT.run_bind, hx]
  cases e with
  | error fault => rfl
  | ok a => exact hf a rfl

theorem map {x : OnWords α} {e : Except MappingFault α} {f : α → β} (hx : Yields x e) :
    Yields (x >>= fun a => Pure.pure (f a)) (e.map f) := by
  have hboth : Yields (x >>= fun a => Pure.pure (f a)) (e >>= fun a => .ok (f a)) :=
    hx.bind fun a _ => .pure (f a)
  cases e <;> exact hboth

/-- A step that is in range. -/
theorem check {x : Option α} {a : α} {f : α → OnWords β} {e : Except MappingFault β}
    (hx : x = some a) (hf : Yields (f a) e) : Yields (liftM x >>= f) e := by
  rw [hx]
  exact hf

end Yields

theorem word_eq_some {max n : Nat} (h : n ≤ max) : word max n = some n :=
  if_pos h

theorem signed64_eq_some {n : Int} (h : n.natAbs ≤ 2 ^ 62) : signed64 n = some n := by
  have hmin : minSigned64 = -9223372036854775808 := rfl
  have hmax : maxSigned64 = 9223372036854775807 := rfl
  exact if_pos (by omega)

theorem digitIn_eq (b : UInt8) : digitIn b = some (digit? (Char.ofNat b.toNat)) := by
  have hall : ∀ n < 256, digitIn (UInt8.ofNat n) = some (digit? (Char.ofNat (UInt8.ofNat n).toNat)) := by
    decide +kernel
  have hb := hall b.toNat b.toNat_lt
  rwa [UInt8.ofNat_toNat] at hb

theorem shiftLeft64_eq_some {d digits : Nat} (h : digits < maxDigits) :
    shiftLeft64 (d % 32 : Nat) (5 * digits) = some ((d % 32 * 32 ^ digits : Nat) : Int) := by
  have hmax : maxDigits = 12 := rfl
  have hpow : 2 ^ (5 * digits) = 32 ^ digits := Nat.pow_mul 2 5 digits
  have hlast : 32 ^ digits ≤ 32 ^ 11 := Nat.pow_le_pow_right (by decide) (by omega)
  have hsmall : d % 32 * 32 ^ digits ≤ 31 * 32 ^ 11 := Nat.mul_le_mul (by omega) hlast
  have hcast : ((d % 32 : Nat) : Int) * 2 ^ (5 * digits) = (d % 32 * 32 ^ digits : Nat) := by
    rw [← hpow]
    push_cast
    ring
  rw [shiftLeft64, if_pos (by omega), hcast, signed64_eq_some (by omega)]

theorem signedIn_eq_some {value : Nat} (h : value < 2 ^ 60) :
    signedIn value = some (signed value) := by
  unfold signedIn signed
  by_cases hodd : value % 2 = 1
  · rw [if_pos (by omega), if_pos hodd, signed64_eq_some (by omega)]
    rfl
  · rw [if_neg (by omega), if_neg hodd]
    rfl

/-! ## Fields -/

/-- The characters that are digits have one byte. -/
theorem utf8Size_eq_one_of_digit {c : Char} {d : Nat} (h : digit? c = some d) : c.utf8Size = 1 := by
  by_contra hsize
  have hlt : ¬ c.val.toNat ≤ 127 := by
    intro hle
    exact hsize (Char.utf8Size_eq_one_iff.mpr (UInt32.le_iff_toNat_le.mpr hle))
  unfold digit? at h
  split_ifs at h with hupper hlower hdigit hplus hslash
  · exact hlt (Nat.le_trans hupper.2 (by decide))
  · exact hlt (Nat.le_trans hlower.2 (by decide))
  · exact hlt (Nat.le_trans hdigit.2 (by decide))
  · exact hlt (hplus ▸ by decide)
  · exact hlt (hslash ▸ by decide)

/-- The first byte of a character that is no digit is no digit. -/
theorem exists_firstByte {c : Char} (h : digit? c = none) :
    ∃ b more, encodeChar c = b :: more ∧ digit? (Char.ofNat b.toNat) = none ∧
      firstByte c = Char.ofNat b.toNat := by
  have hfirst : ∀ b more, encodeChar c = b :: more → firstByte c = Char.ofNat b.toNat := by
    intro b more hbytes
    rw [firstByte, hbytes]
  by_cases hsize : c.utf8Size = 1
  · obtain ⟨b, hbytes, hb⟩ := encodeChar_of_utf8Size_eq_one hsize
    exact ⟨b, [], hbytes, by rw [hb, h], hfirst b [] hbytes⟩
  · obtain ⟨b, more, hbytes, hb⟩ := encodeChar_of_utf8Size_ne_one hsize
    have hhigh : ∀ n < 256, 128 ≤ n → digit? (Char.ofNat n) = none := by decide +kernel
    exact ⟨b, more, hbytes, hhigh b.toNat b.toNat_lt hb, hfirst b more hbytes⟩

theorem add_digit_lt {digits value : Nat} (h : value < 32 ^ digits) (d : Nat) :
    value + d % 32 * 32 ^ digits < 32 ^ (digits + 1) := by
  have hstep : d % 32 * 32 ^ digits ≤ 31 * 32 ^ digits := Nat.mul_le_mul_right _ (by omega)
  rw [Nat.pow_succ]
  omega

/-- The fields of a segment are read from its bytes. What the digits so far make up has as many
digits of base 32, so the sum and the shift are in range. -/
theorem yields_fieldsIn {cs : List Char} {next digits value : Nat} (hdigits : digits ≤ maxDigits)
    (hvalue : value < 32 ^ digits) (hroom : next + byteLength cs ≤ maxWord64) :
    Yields (fieldsIn next (5 * digits) value (encode cs)) (readFields next digits value cs) := by
  have hmax : maxDigits = 12 := rfl
  induction cs generalizing next digits value with
  | nil =>
    have hnext : word maxWord64 next = some next := word_eq_some (Nat.le_of_add_right_le hroom)
    -- the text ends, perhaps in the middle of a number
    rw [readFields, encode, List.flatMap_nil, fieldsIn]
    by_cases hzero : digits = 0
    · rw [if_pos hzero, if_pos (by omega)]
      exact .pure []
    · rw [if_neg hzero, if_neg (by omega)]
      exact .check hnext (.throw _)
  | cons c cs ih =>
    rw [byteLength] at hroom
    have hnext : word maxWord64 next = some next := word_eq_some (by omega)
    rw [readFields, encode, List.flatMap_cons, ← encode]
    cases hc : digit? c with
    | none =>
      -- the first byte of a character that is no digit is no digit
      obtain ⟨b, more, hbytes, hb, hfirst⟩ := exists_firstByte hc
      have hdigit := digitIn_eq b
      rw [hb] at hdigit
      rw [hbytes, List.cons_append, fieldsIn, hfirst]
      exact .check hnext (.check hdigit (.throw _))
    | some d =>
      -- a digit is one byte
      have hsize := utf8Size_eq_one_of_digit hc
      obtain ⟨b, hbytes, hb⟩ := encodeChar_of_utf8Size_eq_one hsize
      have hdigit := digitIn_eq b
      rw [hb, hc] at hdigit
      rw [hbytes, List.singleton_append, fieldsIn]
      refine .check hnext (.check hdigit ?_)
      dsimp only
      by_cases hfull : maxDigits ≤ digits
      · rw [if_pos hfull, if_pos (by omega)]
        exact .throw _
      · have hlast : 32 ^ (digits + 1) ≤ 32 ^ 12 := Nat.pow_le_pow_right (by decide) (by omega)
        have hsum := add_digit_lt hvalue d
        have hnew : signed64 (value + (d % 32 * 32 ^ digits : Nat)) =
            some ((value + d % 32 * 32 ^ digits : Nat) : Int) := by
          rw [signed64_eq_some (by omega)]
          rfl
        rw [if_neg hfull, if_neg (by omega)]
        refine .check (shiftLeft64_eq_some (by omega)) (.check hnew ?_)
        by_cases hmore : 32 ≤ d
        · -- another digit of the number follows
          have hword : maxWord32 = 4294967295 := rfl
          rw [if_pos hmore, if_pos hmore]
          refine .check (word_eq_some (by omega)) ?_
          exact ih (by omega) hsum (by omega)
        · -- the number ends, and another one may begin
          rw [if_neg hmore, if_neg hmore]
          refine .check (signedIn_eq_some (by omega)) ?_
          have hrest : Yields (fieldsIn (next + 1) 0 0 (encode cs)) (readFields (next + 1) 0 0 cs) :=
            ih (Nat.zero_le maxDigits) Nat.zero_lt_one (by omega)
          exact hrest.map

/-- No number has more than 60 bits, the sign among them. -/
theorem natAbs_numberOf_lt {ds : List Nat} (h : IsNumber ds) : (numberOf ds).natAbs < 2 ^ 60 := by
  have hdigits : ∀ d ∈ ds.map (· % 32), d < 32 := by
    intro d hd
    obtain ⟨x, -, rfl⟩ := List.mem_map.mp hd
    exact Nat.mod_lt x (by decide)
  have hlength : (ds.map (· % 32)).length ≤ 12 := by
    have hshort := h.short
    rw [List.length_map]
    rwa [Nat.zero_add] at hshort
  have hlt : magnitude ds < 32 ^ (ds.map (· % 32)).length :=
    Nat.ofDigits_lt_base_pow_length (by decide) hdigits
  have hpow : 32 ^ (ds.map (· % 32)).length ≤ 32 ^ 12 := Nat.pow_le_pow_right (by decide) hlength
  unfold numberOf signed
  split <;> omega

theorem WritesFields.natAbs_lt {cs : List Char} {fields : List Int} (h : WritesFields cs fields) :
    ∀ x ∈ fields, x.natAbs < 2 ^ 60 := by
  obtain ⟨numbers, -, hnumbers, rfl⟩ := h
  intro x hx
  obtain ⟨ds, hds, rfl⟩ := List.mem_map.mp hx
  exact natAbs_numberOf_lt (hnumbers ds hds)

/-- A piece that is not empty has a field at least. -/
theorem WritesFields.ne_nil {cs : List Char} {fields : List Int} (h : WritesFields cs fields)
    (hcs : cs ≠ []) : fields ≠ [] := by
  rcases writesFields_iff.mp h with ⟨hnil, -⟩ | ⟨ds, more, -, -, -, rfl⟩
  · exact absurd hnil hcs
  · exact List.cons_ne_nil _ _

/-- A piece that is read is made of bytes. -/
theorem WritesFields.utf8Size_eq_one {cs : List Char} {fields : List Int}
    (h : WritesFields cs fields) : ∀ c ∈ cs, c.utf8Size = 1 := by
  obtain ⟨numbers, hdigits, -⟩ := h
  intro c hc
  have hmem : digit? c ∈ cs.map digit? := List.mem_map_of_mem hc
  rw [hdigits] at hmem
  obtain ⟨d, -, hd⟩ := List.mem_map.mp hmem
  exact utf8Size_eq_one_of_digit hd.symm

/-! ## Segments -/

theorem yields_addIn {field : MappingField} {line offset total : Nat} {delta : Int}
    (htotal : total ≤ maxWord32) (hdelta : delta.natAbs < 2 ^ 60) :
    Yields (addIn field line offset total delta) (shift field line total delta) := by
  have hword : maxWord32 = 4294967295 := rfl
  have hsum : signed64 (total + delta) = some (total + delta) := signed64_eq_some (by omega)
  rw [addIn, hsum, shift]
  by_cases hneg : (total : Int) + delta < 0
  · simp only [hneg, if_true]
    exact .throw _
  · simp only [hneg, if_false]
    exact .pure _

/-- A total is brought to 32 bits where all of them are looked at. -/
theorem yields_word32In {β : Type} {offset n : Nat} {fits : Bool} {f : Nat → OnWords β}
    {e : Except MappingFault β} (hfits : fits = true → n ≤ maxWord32)
    (hf : n ≤ maxWord32 → Yields (f n) (if fits then e else .error (.overflow offset))) :
    Yields (word32In offset n >>= f) (if fits then e else .error (.overflow offset)) := by
  by_cases hn : n ≤ maxWord32
  · have hword : word32In offset n = pure n := by rw [word32In, word_eq_some hn]
    rw [hword]
    exact hf hn
  · have hword : word32In offset n = throw (.overflow offset) := by rw [word32In, word, if_neg hn]
    rw [hword, if_neg (mt hfits hn)]
    exact .throw _

variable {t : Totals} {line offset : Nat}

theorem fits_eq_true : t.fits = true ↔ t.column ≤ maxWord32 ∧ t.source ≤ maxWord32 ∧
    t.line ≤ maxWord32 ∧ t.sourceColumn ≤ maxWord32 ∧ t.name ≤ maxWord32 := by
  simp only [Totals.fits, Bool.and_eq_true, decide_eq_true_eq, and_assoc]

/-- A segment is put together from its fields. The totals that it leaves fit 32 bits already, so
it is enough to look at those that it changes. -/
theorem yields_applyIn {fields : List Int} (ht : t.fits = true) (hne : fields ≠ [])
    (hfields : ∀ x ∈ fields, x.natAbs < 2 ^ 60) :
    Yields (applyIn t line offset fields) (do
      let (t, segment) ← t.apply line fields
      if t.fits then return (t, segment) else throw (.overflow offset)) := by
  obtain ⟨hcolumn, hsource, hline, hsourceColumn, hname⟩ := fits_eq_true.mp ht
  obtain ⟨column, more, rfl⟩ := List.exists_cons_of_ne_nil hne
  obtain ⟨hdelta, hmore⟩ := List.forall_mem_cons.mp hfields
  rw [applyIn, Totals.apply]
  simp only [bind_assoc]
  refine .check rfl (.bind (yields_addIn hcolumn hdelta) fun c _ => ?_)
  rcases more with _ | ⟨source, _ | ⟨sourceLine, _ | ⟨sourceColumn, _ | ⟨name, _ | ⟨_, rest⟩⟩⟩⟩⟩
  · -- one field
    refine yields_word32In (fun h => (fits_eq_true.mp h).1) fun hc => ?_
    have hfits : Totals.fits { t with column := c } = true :=
      fits_eq_true.mpr ⟨hc, hsource, hline, hsourceColumn, hname⟩
    rw [if_pos hfits]
    exact .pure _
  · exact .throw _
  · exact .throw _
  · -- four fields
    simp only [List.forall_mem_cons] at hmore
    obtain ⟨hd₁, hd₂, hd₃, -⟩ := hmore
    have hcount : ¬ 1 < ([] : List Int).length := by decide
    dsimp only
    rw [if_neg hcount]
    simp only [bind_assoc, pure_bind]
    refine .check rfl (.bind (yields_addIn hsource hd₁) fun s _ => ?_)
    refine .check rfl (.bind (yields_addIn hline hd₂) fun l _ => ?_)
    refine .check rfl (.bind (yields_addIn hsourceColumn hd₃) fun k _ => ?_)
    refine yields_word32In (fun h => (fits_eq_true.mp h).2.1) fun hs => ?_
    refine yields_word32In (fun h => (fits_eq_true.mp h).2.2.1) fun hl => ?_
    refine yields_word32In (fun h => (fits_eq_true.mp h).2.2.2.1) fun hk => ?_
    refine yields_word32In (fun h => (fits_eq_true.mp h).1) fun hc => ?_
    have hfits : Totals.fits ⟨c, s, l, k, t.name⟩ = true :=
      fits_eq_true.mpr ⟨hc, hs, hl, hk, hname⟩
    rw [if_pos hfits]
    exact .pure _
  · -- five fields
    simp only [List.forall_mem_cons] at hmore
    obtain ⟨hd₁, hd₂, hd₃, hd₄, -⟩ := hmore
    have hcount : ¬ 1 < [name].length := Nat.lt_irrefl 1
    dsimp only
    rw [if_neg hcount]
    simp only [bind_assoc, pure_bind]
    refine .check rfl (.bind (yields_addIn hsource hd₁) fun s _ => ?_)
    refine .check rfl (.bind (yields_addIn hline hd₂) fun l _ => ?_)
    refine .check rfl (.bind (yields_addIn hsourceColumn hd₃) fun k _ => ?_)
    refine .check rfl (.bind (yields_addIn hname hd₄) fun n _ => ?_)
    refine yields_word32In (fun h => (fits_eq_true.mp h).2.2.2.2) fun hn => ?_
    refine yields_word32In (fun h => (fits_eq_true.mp h).2.1) fun hs => ?_
    refine yields_word32In (fun h => (fits_eq_true.mp h).2.2.1) fun hl => ?_
    refine yields_word32In (fun h => (fits_eq_true.mp h).2.2.2.1) fun hk => ?_
    refine yields_word32In (fun h => (fits_eq_true.mp h).1) fun hc => ?_
    have hfits : Totals.fits ⟨c, s, l, k, n⟩ = true := fits_eq_true.mpr ⟨hc, hs, hl, hk, hn⟩
    rw [if_pos hfits]
    exact .pure _
  · have hmany : 1 < (rest.length + 1) + 1 := by omega
    rw [if_neg (by simp), if_neg (by simp)]
    simp only [List.length_cons, hmany, if_true]
    exact .throw _

/-! ## Lines -/

/-- The bytes of pieces with a separator behind each. -/
def room (pieces : List (List Char)) : Nat :=
  (pieces.map (byteLength · + 1)).sum

theorem room_cons (piece : List Char) (rest : List (List Char)) :
    room (piece :: rest) = byteLength piece + 1 + room rest := by
  simp [room]

theorem room_split {sep : Char} (hsep : sep.utf8Size = 1) (cs : List Char) :
    room (split sep cs) = byteLength cs + 1 := by
  induction cs with
  | nil => rfl
  | cons c cs ih =>
    rw [byteLength]
    by_cases hc : c = sep
    · rw [hc, split_cons_self, room_cons, ih, hsep, byteLength_nil]
      omega
    · obtain ⟨p, ps, hs, hcons⟩ := exists_split_cons hc cs
      rw [hs, room_cons] at ih
      rw [hcons, room_cons, byteLength]
      omega

theorem length_le_room (pieces : List (List Char)) : pieces.length ≤ room pieces := by
  induction pieces with
  | nil => exact Nat.zero_le _
  | cons piece rest ih =>
    rw [room_cons, List.length_cons]
    omega

/-- Segments that are read leave totals that fit 32 bits. -/
theorem fits_of_readPieces {n : Nat} {pieces : List (List Char)} {t' : Totals}
    {segments : List Segment} (ht : t.fits = true)
    (h : readPieces n t offset pieces = .ok (t', segments)) : t'.fits = true := by
  obtain ⟨line, -, hall, rfl, -⟩ := readPieces_eq_ok.mp h
  exact Totals.fits_behind ht hall

/-- The segments of a line are read where there is room for the offsets of its bytes. -/
theorem yields_piecesIn {n : Nat} {pieces : List (List Char)} (ht : t.fits = true)
    (hroom : offset + room pieces ≤ maxWord64) :
    Yields (piecesIn n t offset pieces) (readPieces n t offset pieces) := by
  induction pieces generalizing t offset with
  | nil => exact .pure _
  | cons piece rest ih =>
    rw [room_cons] at hroom
    rw [piecesIn, readPieces]
    by_cases hempty : piece.isEmpty = true
    · -- a piece that is empty is passed over
      rw [if_pos hempty, if_pos hempty]
      exact .check (word_eq_some (by omega)) (ih ht (by omega))
    · have hne : piece ≠ [] := by simpa using hempty
      have hfields : Yields (fieldsIn offset 0 0 (encode piece)) (fieldsAt offset piece) :=
        yields_fieldsIn (Nat.zero_le maxDigits) Nat.zero_lt_one (by omega)
      rw [if_neg hempty, if_neg hempty, readSegment, bind_assoc]
      refine hfields.bind fun fields h => ?_
      have hwrites := readFields_eq_ok.mp h
      have hlength := byteLength_eq_length hwrites.utf8Size_eq_one
      have hnext : word maxWord64 (offset + byteLength piece + 1) =
          some (offset + piece.length + 1) := by
        rw [hlength]
        exact word_eq_some (by omega)
      refine .check hnext ?_
      refine .bind (yields_applyIn ht (hwrites.ne_nil hne) hwrites.natAbs_lt) fun r hr => ?_
      -- the totals behind the segment fit, so the next piece can be read
      have hsegment : readSegment t n offset piece = .ok r := by
        rw [readSegment, h]
        exact hr
      obtain ⟨u, s⟩ := r
      obtain ⟨fs, -, hadmits, rfl, -⟩ := readSegment_eq_ok.mp hsegment
      exact .bind (ih (Totals.fits_plus hadmits) (by omega)) fun _ _ => .pure _

/-- A line that is read is made of bytes: so are its segments, and so are the commas. -/
theorem byteLength_of_readPieces {n : Nat} {cs : List Char} {r : Totals × List Segment}
    (h : readPieces n t offset (split ',' cs) = .ok r) : byteLength cs = cs.length := by
  obtain ⟨line, hline, -⟩ := readPieces_eq_ok.mp h
  apply byteLength_eq_length
  intro c hc
  by_cases hcomma : c = ','
  · rw [hcomma]
    rfl
  · obtain ⟨piece, hpiece, hmem⟩ := exists_mem_split hc hcomma
    have hfilled : piece ∈ filled (split ',' cs) := by
      refine List.mem_filter.mpr ⟨hpiece, ?_⟩
      simpa using List.ne_nil_of_mem hmem
    obtain ⟨fields, hwrites⟩ := exists_right_of_mem hline hfilled
    exact hwrites.1.utf8Size_eq_one c hmem

/-- Lines are read where there is room for their numbers and the offsets of their bytes. -/
theorem yields_linesIn {index : Nat} {lines : List (List Char)} (ht : t.fits = true)
    (hroom : offset + room lines ≤ maxWord64) (hindex : index + lines.length ≤ maxWord64) :
    Yields (linesIn t index offset lines) (readLines t (index + 1) offset lines) := by
  induction lines generalizing t index offset with
  | nil => exact .pure _
  | cons line rest ih =>
    rw [room_cons] at hroom
    rw [List.length_cons] at hindex
    have hpieces : offset + room (split ',' line) ≤ maxWord64 := by
      rw [room_split rfl]
      omega
    have hstart := Totals.fits_newLine ht
    rw [linesIn, readLines]
    refine .check (word_eq_some (by omega)) ?_
    refine .bind (yields_piecesIn hstart hpieces) fun r hr => ?_
    have hlength := byteLength_of_readPieces hr
    have hnext : word maxWord64 (offset + byteLength line + 1) =
        some (offset + line.length + 1) := by
      rw [hlength]
      exact word_eq_some (by omega)
    refine .check hnext ?_
    exact .bind (ih (fits_of_readPieces hstart hr) (by omega) (by omega)) fun _ _ => .pure _

/-- A text is read if and only if it holds mappings. On machine words nothing is out of range and
nothing is missing, and the text is read as it is with numbers of any size; a text in memory has no
more bytes than a signed word can count. -/
theorem readMappings_onWords (text : String) :
    ((∃ m, readMappings text = .ok m) ↔ IsMappings text) ∧
      ((text.utf8ByteSize : Int) ≤ maxSigned64 →
        (readMappingsIn text).run = some (readMappings text)) := by
  refine ⟨readMappings_isOk_iff, fun h => ?_⟩
  have hmax : maxSigned64 = 9223372036854775807 := rfl
  have hword : maxWord64 = 18446744073709551615 := rfl
  have hzero : Totals.zero.fits = true := by decide
  have hbytes : room (split ';' text.toList) = text.utf8ByteSize + 1 := by
    rw [room_split rfl, byteLength_toList]
  have hcount := length_le_room (split ';' text.toList)
  have hlines : Yields (linesIn .zero 0 0 (split ';' text.toList))
      (readLines .zero 1 0 (split ';' text.toList)) :=
    yields_linesIn hzero (by omega) (by omega)
  exact hlines.map

/-- A character of more than one byte: its first byte is told by the fault. -/
theorem readMappings_accented :
    ("AAAA;é".utf8ByteSize : Int) ≤ maxSigned64 ∧
      (readMappingsIn "AAAA;é").run = some (.error (.character 'Ã' 5)) := by
  have hshort : ("AAAA;é".utf8ByteSize : Int) ≤ maxSigned64 := by decide
  have hfault : readMappings "AAAA;é" = .error (.character 'Ã' 5) := by decide
  refine ⟨hshort, ?_⟩
  rw [← hfault]
  exact (readMappings_onWords "AAAA;é").2 hshort

end AppBundle.SourceMap
