import AppBundle.Text.Blank
import AppBundle.Text.Search
import Mathlib.Data.List.TakeWhile

/-!
# Beginnings and ends of a text
-/

namespace AppBundle.Text

variable {cs rest front : List Char}

/-- The code points of the blank characters. -/
def blankCodes : List Nat := [
  9, 10, 11, 12, 13, 0x20, 0x85, 0xA0, 0x1680, 0x2000, 0x2001, 0x2002, 0x2003, 0x2004, 0x2005,
  0x2006, 0x2007, 0x2008, 0x2009, 0x200A, 0x2028, 0x2029, 0x202F, 0x205F, 0x3000]

theorem mem_blankCodes {c : Char} (h : isBlank c = true) : c.toNat ∈ blankCodes := by
  simp only [isBlank, Bool.or_eq_true, Bool.and_eq_true, decide_eq_true_eq, beq_iff_eq] at h
  simp only [blankCodes, List.mem_cons, List.not_mem_nil, or_false]
  omega

/-- What holds of all blanks holds of each. -/
theorem of_isBlank {p : Char → Bool} (hall : ∀ n ∈ blankCodes, p (Char.ofNat n) = true) {c : Char}
    (h : isBlank c = true) : p c = true := by
  have hcode := hall _ (mem_blankCodes h)
  rwa [Char.ofNat_toNat] at hcode

/-- What follows a beginning makes up the text with it. -/
theorem after?_eq_some_iff {beginning : List Char} :
    after? beginning cs = some rest ↔ cs = beginning ++ rest := by
  induction beginning generalizing cs with
  | nil => simp [after?]
  | cons p ps ih =>
    cases cs with
    | nil => simp [after?]
    | cons c cs =>
      rw [after?, List.cons_append, List.cons.injEq]
      by_cases hp : p = c
      · rw [if_pos hp, ih]
        exact (and_iff_right hp.symm).symm
      · rw [if_neg hp]
        exact ⟨fun h => absurd h (by simp), fun h => absurd h.1.symm hp⟩

@[simp] theorem after?_append (beginning rest : List Char) :
    after? beginning (beginning ++ rest) = some rest :=
  after?_eq_some_iff.mpr rfl

theorem isSome_after?_iff {beginning : List Char} :
    (after? beginning cs).isSome ↔ beginning <+: cs := by
  rw [Option.isSome_iff_exists]
  constructor
  · rintro ⟨rest, hrest⟩
    exact ⟨rest, (after?_eq_some_iff.mp hrest).symm⟩
  · rintro ⟨rest, rfl⟩
    exact ⟨rest, after?_append _ _⟩

/-- A text occurs in another if it is a part of it. -/
theorem contains_iff {needle : List Char} : contains needle cs = true ↔ needle <:+: cs := by
  induction cs with
  | nil => rw [contains, List.isEmpty_iff, List.infix_nil]
  | cons c cs ih => rw [contains, Bool.or_eq_true, isSome_after?_iff, ih, List.infix_cons_iff]

/-- What stands before an ending makes up the text with it. -/
theorem before?_eq_some_iff {ending : List Char} :
    before? ending cs = some front ↔ cs = front ++ ending := by
  rw [before?, Option.map_eq_some_iff]
  constructor
  · rintro ⟨r, hr, rfl⟩
    have h := congrArg List.reverse (after?_eq_some_iff.mp hr)
    rwa [List.reverse_reverse, List.reverse_append, List.reverse_reverse] at h
  · rintro rfl
    refine ⟨front.reverse, ?_, List.reverse_reverse front⟩
    rw [List.reverse_append, after?_append]

/-- Text in front of the first character that stops a reading is what is read. -/
theorem takeWhile_append_stop {p : Char → Bool} {c : Char}
    (hfront : ∀ d ∈ front, p d = true) (hc : p c = false) (rest : List Char) :
    (front ++ c :: rest).takeWhile p = front := by
  rw [List.takeWhile_append_of_pos hfront, List.takeWhile_cons_of_neg (by simp [hc]),
    List.append_nil]

theorem dropWhile_append_stop {p : Char → Bool} {c : Char}
    (hfront : ∀ d ∈ front, p d = true) (hc : p c = false) (rest : List Char) :
    (front ++ c :: rest).dropWhile p = c :: rest := by
  rw [List.dropWhile_append_of_pos hfront, List.dropWhile_cons_of_neg (by simp [hc])]

/-- What a reading takes is in front of a character that stops it, if anything is left. -/
theorem eq_append_of_dropWhile {p : Char → Bool} {c : Char}
    (h : cs.dropWhile p = c :: rest) :
    cs = cs.takeWhile p ++ c :: rest ∧ (∀ d ∈ cs.takeWhile p, p d = true) ∧ p c = false := by
  refine ⟨?_, fun d hd => List.mem_takeWhile_imp hd, ?_⟩
  · rw [← h, List.takeWhile_append_dropWhile]
  · have hhead := List.head?_dropWhile_not p cs
    rw [h] at hhead
    simpa using hhead

/-- A text without a character is what stands in front of that character. -/
theorem takeWhile_ne_append {c : Char} {cs : List Char} (hc : c ∉ cs) (rest : List Char) :
    (cs ++ c :: rest).takeWhile (· ≠ c) = cs := by
  refine takeWhile_append_stop (fun d hd => ?_) (by simp) rest
  exact decide_eq_true fun hdc => hc (hdc ▸ hd)

/-- A character of a text that is put together from two parts stands in one of them. -/
theorem append_eq_append_cons {back before behind : List Char} {c : Char}
    (h : front ++ back = before ++ c :: behind) :
    (∃ rest, front = before ++ c :: rest ∧ behind = rest ++ back) ∨
      ∃ rest, before = front ++ rest ∧ back = rest ++ c :: behind := by
  rcases List.append_eq_append_iff.mp h with ⟨rest, hbefore, hback⟩ | ⟨rest, hfront, hbehind⟩
  · exact .inr ⟨rest, hbefore, hback⟩
  · cases rest with
    | nil =>
      rw [List.append_nil] at hfront
      exact .inr ⟨[], by rw [hfront, List.append_nil], hbehind.symm⟩
    | cons d rest =>
      obtain ⟨rfl, rfl⟩ := List.cons.inj hbehind
      exact .inl ⟨rest, hfront, rfl⟩

/-- A text keeps what is in front of it when its end is trimmed. -/
theorem trimRight_cons {drop : Char → Bool} {c : Char} (hc : drop c = false) (cs : List Char) :
    ∃ tail, trimRight drop (c :: cs) = c :: tail := by
  rw [trimRight, List.reverse_cons, List.dropWhile_append]
  split
  · rw [List.dropWhile_cons_of_neg (by simp [hc])]
    exact ⟨[], rfl⟩
  · rw [List.reverse_append]
    exact ⟨_, rfl⟩

/-- What is trimmed stands behind what is left. -/
theorem exists_trimRight_append (drop : Char → Bool) (cs : List Char) :
    ∃ tail, cs = trimRight drop cs ++ tail ∧ ∀ c ∈ tail, drop c = true := by
  refine ⟨(cs.reverse.takeWhile drop).reverse, ?_, fun c hc => ?_⟩
  · rw [trimRight, ← List.reverse_append, List.takeWhile_append_dropWhile, List.reverse_reverse]
  · exact List.mem_takeWhile_imp (List.mem_reverse.mp hc)

/-! ## Line ends -/

@[simp] theorem unifyFeeds_nil : unifyFeeds [] = [] := rfl

theorem unifyFeeds_eq_nil : unifyFeeds cs = [] ↔ cs = [] := by
  fun_cases unifyFeeds cs <;> simp

theorem unifyFeeds_eq_self (h : '\n' ∉ cs) : unifyFeeds cs = cs := by
  fun_induction unifyFeeds cs with
  | case1 => rfl
  | case2 rest ih => simp at h
  | case3 c rest hne ih =>
    rw [List.mem_cons, not_or] at h
    rw [ih h.2]

end AppBundle.Text
