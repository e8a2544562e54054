import AppBundle.Text.Bytes
import Mathlib.Tactic.Common
import Mathlib.Tactic.SplitIfs

/-!
# Bytes of a text

The bytes of a text give the text again. An offset is a position of a text if the text falls apart
there: what stands before it has that many bytes. Since every character has a byte at least, a text
falls apart at an offset in one way only.
-/

namespace AppBundle.Text

variable {cs a b front back : List Char} {n : Nat}

@[simp] theorem byteLength_nil : byteLength [] = 0 := rfl

@[simp] theorem byteLength_append (a b : List Char) :
    byteLength (a ++ b) = byteLength a + byteLength b := by
  induction a with
  | nil => rw [List.nil_append, byteLength_nil, Nat.zero_add]
  | cons c a ih => rw [List.cons_append, byteLength, byteLength, ih, Nat.add_assoc]

theorem byteLength_eq_zero : byteLength cs = 0 ↔ cs = [] := by
  cases cs with
  | nil => simp
  | cons c cs =>
    have hc := c.utf8Size_pos
    simp only [byteLength, reduceCtorEq, iff_false]
    omega

/-- The bytes of a text are counted by the widths of its characters. -/
theorem length_encode (cs : List Char) : (encode cs).length = byteLength cs := by
  induction cs with
  | nil => rfl
  | cons c cs ih =>
    rw [encode, List.flatMap_cons, List.length_append, encodeChar, String.length_utf8EncodeChar,
      byteLength, ← ih]
    rfl

theorem mk_encode (s : String) : ByteArray.mk (encode s.toList).toArray = s.toByteArray := by
  rw [← String.utf8Encode_toList]
  exact ByteArray.ext List.data_toByteArray.symm

/-- The bytes of a text are read as the text. -/
theorem decode?_encode (s : String) : decode? (encode s.toList) = some s := by
  rw [decode?, mk_encode, String.fromUTF8?, dif_pos s.isValidUTF8]
  rfl

theorem byteLength_toList (s : String) : byteLength s.toList = s.utf8ByteSize := by
  rw [← length_encode, ← String.size_toByteArray, ← mk_encode]
  rfl

theorem byteLength_eq_length (h : ∀ c ∈ cs, c.utf8Size = 1) : byteLength cs = cs.length := by
  induction cs with
  | nil => rfl
  | cons c cs ih =>
    have hc : c.utf8Size = 1 := h c List.mem_cons_self
    rw [byteLength, hc, ih fun x hx => h x (List.mem_cons_of_mem c hx), List.length_cons, Nat.add_comm]

/-- A character of one byte is that byte. -/
theorem encodeChar_of_utf8Size_eq_one {c : Char} (h : c.utf8Size = 1) :
    ∃ b, encodeChar c = [b] ∧ Char.ofNat b.toNat = c := by
  have hle := Char.utf8Size_eq_one_iff.mp h
  have hlt : c.val.toNat < 256 := Nat.lt_of_le_of_lt (UInt32.le_iff_toNat_le.mp hle) (by decide)
  refine ⟨c.val.toUInt8, String.utf8EncodeChar_eq_singleton h, ?_⟩
  rw [UInt32.toNat_toUInt8, Nat.mod_eq_of_lt hlt]
  exact Char.ofNat_toNat c

/-- All bytes of any other character lie behind all characters of one byte. -/
theorem le_of_mem_encodeChar {c : Char} (h : c.utf8Size ≠ 1) {b : UInt8} (hb : b ∈ encodeChar c) :
    128 ≤ b.toNat := by
  have hlt : ¬ c.val.toNat ≤ 127 := by
    intro hle
    exact h (Char.utf8Size_eq_one_iff.mpr (UInt32.le_iff_toNat_le.mpr hle))
  have hbyte : ∀ low high : Nat, 128 ≤ high → low + high < 256 →
      128 ≤ (UInt8.ofNat (low + high)).toNat := by
    intro low high hhigh hsum
    rw [UInt8.toNat_ofNat_of_lt' hsum]
    omega
  rw [encodeChar, String.utf8EncodeChar, if_neg hlt] at hb
  split_ifs at hb <;> simp only [List.mem_cons, List.not_mem_nil, or_false] at hb
  · rcases hb with rfl | rfl
    · exact hbyte _ 192 (by decide) (by omega)
    · exact hbyte _ 128 (by decide) (by omega)
  · rcases hb with rfl | rfl | rfl
    · exact hbyte _ 224 (by decide) (by omega)
    · exact hbyte _ 128 (by decide) (by omega)
    · exact hbyte _ 128 (by decide) (by omega)
  · rcases hb with rfl | rfl | rfl | rfl
    · exact hbyte _ 240 (by decide) (by omega)
    · exact hbyte _ 128 (by decide) (by omega)
    · exact hbyte _ 128 (by decide) (by omega)
    · exact hbyte _ 128 (by decide) (by omega)

/-- The first byte of any other character lies behind all characters of one byte. -/
theorem encodeChar_of_utf8Size_ne_one {c : Char} (h : c.utf8Size ≠ 1) :
    ∃ b more, encodeChar c = b :: more ∧ 128 ≤ b.toNat := by
  cases hbytes : encodeChar c with
  | nil =>
    have hlength := String.length_utf8EncodeChar c
    rw [← encodeChar, hbytes] at hlength
    exact absurd hlength.symm (Nat.ne_of_gt c.utf8Size_pos)
  | cons b more => exact ⟨b, more, rfl, le_of_mem_encodeChar h (hbytes ▸ List.mem_cons_self)⟩

theorem encode_append (a b : List Char) : encode (a ++ b) = encode a ++ encode b :=
  List.flatMap_append

/-- Only a line feed has the byte of a line feed. -/
theorem feed_notMem_encode {cs : List Char} (h : '\n' ∉ cs) : 10 ∉ encode cs := by
  intro hmem
  obtain ⟨c, hc, hb⟩ := List.mem_flatMap.mp hmem
  by_cases hsize : c.utf8Size = 1
  · obtain ⟨b, hencode, hchar⟩ := encodeChar_of_utf8Size_eq_one hsize
    rw [hencode, List.mem_singleton] at hb
    rw [← hb] at hchar
    exact h (hchar ▸ hc)
  · exact absurd (le_of_mem_encodeChar hsize hb) (by decide)

theorem encode_eq_nil : encode cs = [] ↔ cs = [] := by
  rw [← List.length_eq_zero_iff, length_encode, byteLength_eq_zero]

theorem cutAt?_zero (cs : List Char) : cutAt? 0 cs = some ([], cs) := by
  cases cs <;> rfl

theorem cutAt?_cons (c : Char) (n : Nat) (cs : List Char) :
    cutAt? (c.utf8Size + n) (c :: cs) =
      (cutAt? n cs).map fun (front, back) => (c :: front, back) := by
  have hc := c.utf8Size_pos
  obtain ⟨m, hm⟩ : ∃ m, c.utf8Size + n = m + 1 := ⟨c.utf8Size + n - 1, by omega⟩
  have hrest : m + 1 - c.utf8Size = n := by omega
  rw [hm, cutAt?, if_pos (by omega), hrest]

/-- A text is cut where it was put together. -/
@[simp] theorem cutAt?_append (a b : List Char) : cutAt? (byteLength a) (a ++ b) = some (a, b) := by
  induction a with
  | nil => exact cutAt?_zero b
  | cons c a ih =>
    rw [byteLength, List.cons_append, cutAt?_cons, ih]
    rfl

/-- What is cut makes up the text, and the offset is the length of the front. -/
theorem append_of_cutAt? (h : cutAt? n cs = some (a, b)) : cs = a ++ b ∧ byteLength a = n := by
  fun_induction cutAt? n cs generalizing a with
  | case1 cs =>
    obtain ⟨rfl, rfl⟩ := Prod.mk.inj (Option.some.inj h)
    exact ⟨rfl, rfl⟩
  | case2 n => exact absurd h (by simp)
  | case3 n c cs hle ih =>
    obtain ⟨⟨front, back⟩, hcut, hpair⟩ := Option.map_eq_some_iff.mp h
    obtain ⟨rfl, rfl⟩ := Prod.mk.inj hpair
    obtain ⟨rfl, hn⟩ := ih hcut
    exact ⟨rfl, by rw [byteLength]; omega⟩
  | case4 n c cs hlt => exact absurd h (by simp)

/-- A text is cut at an offset where it falls apart. -/
theorem cutAt?_eq_some_iff : cutAt? n cs = some (a, b) ↔ cs = a ++ b ∧ byteLength a = n := by
  refine ⟨append_of_cutAt?, ?_⟩
  rintro ⟨rfl, rfl⟩
  exact cutAt?_append a b

theorem isBoundary_iff : isBoundary n cs = true ↔ ∃ a b, cs = a ++ b ∧ byteLength a = n := by
  rw [isBoundary, Option.isSome_iff_exists]
  constructor
  · rintro ⟨⟨a, b⟩, h⟩
    exact ⟨a, b, cutAt?_eq_some_iff.mp h⟩
  · rintro ⟨a, b, h⟩
    exact ⟨(a, b), cutAt?_eq_some_iff.mpr h⟩

/-- What stands before a position within the front part of a text stands there in that part. -/
theorem exists_append_of_le (h : front ++ back = a ++ b) (hle : byteLength a ≤ byteLength front) :
    ∃ mid, front = a ++ mid := by
  rcases List.append_eq_append_iff.mp h with ⟨mid, ha, -⟩ | ⟨mid, hfront, -⟩
  · have hmid : byteLength mid = 0 := by
      rw [ha, byteLength_append] at hle
      omega
    rw [byteLength_eq_zero.mp hmid, List.append_nil] at ha
    exact ⟨[], by rw [ha, List.append_nil]⟩
  · exact ⟨mid, hfront⟩

/-- A part is found where it stands. -/
theorem slice?_append (before inside behind : List Char) :
    slice? (byteLength before) (byteLength before + byteLength inside)
      (before ++ inside ++ behind) = some inside := by
  rw [slice?, List.append_assoc, cutAt?_append]
  simp only [Option.bind_eq_bind, Option.bind_some, Nat.add_sub_cancel_left, cutAt?_append,
    Nat.le_add_right, if_true]

/-- The text with the part between two offsets replaced by another; none if the offsets are not the
ends of a part. -/
def replaceRange? (first last : Nat) (new cs : List Char) : Option (List Char) := do
  let (before, rest) ← cutAt? first cs
  let (_, behind) ← cutAt? (last - first) rest
  if first ≤ last then some (before ++ new ++ behind) else none

/-- A part is replaced where it stands. -/
theorem replaceRange?_append (before inside behind new : List Char) :
    replaceRange? (byteLength before) (byteLength before + byteLength inside) new
      (before ++ inside ++ behind) = some (before ++ new ++ behind) := by
  rw [replaceRange?, List.append_assoc, cutAt?_append]
  simp only [Option.bind_eq_bind, Option.bind_some, Nat.add_sub_cancel_left, cutAt?_append,
    Nat.le_add_right, if_true]

end AppBundle.Text
