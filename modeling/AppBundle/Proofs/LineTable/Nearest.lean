import AppBundle.Proofs.LineTable
import AppBundle.Text.Numeral
import Mathlib.Data.List.TakeWhile
import Mathlib.Data.Nat.Dist

/-!
# The nearest line

A search around a line finds the entry nearest to it, of two at the same distance the one below, and
nothing where no entry is within the radius (`near?_answers`).

The same is found by *probing*: the line is looked up, then the lines at distance one, two and so on,
each time the one below before the one above. On machine words a line at a distance may be out of
range; the differences and sums are checked, so such a line is passed over and no other is looked up
in its place (`probe?_nearest`).
-/

namespace AppBundle

/-! ## Words of 32 bits -/

namespace Word32

variable {a b c : UInt32}

/-- The difference of two words, if it is not below zero. -/
def minus? (a b : UInt32) : Option UInt32 :=
  if b ≤ a then some (a - b) else none

/-- The sum of two words, if it is none that went around. -/
def plus? (a b : UInt32) : Option UInt32 :=
  if a ≤ a + b then some (a + b) else none

theorem minus?_eq_some_iff : minus? a b = some c ↔ c.toNat + b.toNat = a.toNat := by
  rw [minus?]
  constructor
  · intro h
    split at h
    · next hle =>
      obtain rfl := Option.some.inj h
      rw [UInt32.toNat_sub_of_le _ _ hle]
      exact Nat.sub_add_cancel (UInt32.le_iff_toNat_le.mp hle)
    · exact absurd h (by simp)
  · intro h
    have hle : b ≤ a := UInt32.le_iff_toNat_le.mpr (by omega)
    rw [if_pos hle, Option.some.injEq, ← UInt32.toNat_inj, UInt32.toNat_sub_of_le _ _ hle]
    omega

theorem plus?_eq_some_iff : plus? a b = some c ↔ a.toNat + b.toNat = c.toNat := by
  have ha := a.toNat_lt
  have hb := b.toNat_lt
  have hsum := UInt32.toNat_add a b
  rw [plus?]
  constructor
  · intro h
    split at h
    · next hle =>
      obtain rfl := Option.some.inj h
      have hle := UInt32.le_iff_toNat_le.mp hle
      omega
    · exact absurd h (by simp)
  · intro h
    have hc := c.toNat_lt
    have hle : a ≤ a + b := UInt32.le_iff_toNat_le.mpr (by omega)
    rw [if_pos hle, Option.some.injEq, ← UInt32.toNat_inj]
    omega

end Word32

namespace LineTable

variable {m : LineTable} {n radius : Nat} {e e' : Nat × LineOrigin}

/-! ## What a search answers -/

/-- An entry within a radius of a line that no other is nearer to the line than; those at the same
distance are above it. -/
structure IsNearest (m : LineTable) (n radius : Nat) (e : Nat × LineOrigin) : Prop where
  mem : e ∈ m.entries
  within : n.dist e.1 ≤ radius
  least : ∀ x ∈ m.entries, n.dist e.1 < n.dist x.1 ∨ n.dist e.1 = n.dist x.1 ∧ e.1 ≤ x.1

/-- What a search around a line may come to: the nearest entry, or nothing where all are beyond the
radius. -/
def Answers (m : LineTable) (n radius : Nat) : Option (Nat × LineOrigin) → Prop
  | some e => m.IsNearest n radius e
  | none => ∀ x ∈ m.entries, radius < n.dist x.1

/-- There is one entry for a line. -/
theorem eq_of_fst_eq (he : e ∈ m.entries) (he' : e' ∈ m.entries) (h : e.1 = e'.1) : e = e' := by
  have hget : m.get? e.1 = some e.2 := get?_eq_some_iff.mpr he
  have hget' : m.get? e.1 = some e'.2 := get?_eq_some_iff.mpr (h ▸ he')
  exact Prod.ext h (Option.some.inj (hget.symm.trans hget'))

theorem IsNearest.unique (h : m.IsNearest n radius e) (h' : m.IsNearest n radius e') : e = e' := by
  refine eq_of_fst_eq h.mem h'.mem ?_
  have hle := h.least e' h'.mem
  have hge := h'.least e h.mem
  omega

/-- A search has one answer. -/
theorem Answers.unique {r r' : Option (Nat × LineOrigin)} (h : m.Answers n radius r)
    (h' : m.Answers n radius r') : r = r' := by
  cases r with
  | none =>
    cases r' with
    | none => rfl
    | some e' => exact absurd (h e' h'.mem) (Nat.not_lt_of_le h'.within)
  | some e =>
    cases r' with
    | none => exact absurd (h' e h.mem) (Nat.not_lt_of_le h.within)
    | some e' => rw [IsNearest.unique h h']

theorem Answers.eq_some_iff {r : Option (Nat × LineOrigin)} (h : m.Answers n radius r) :
    r = some e ↔ m.IsNearest n radius e :=
  ⟨fun hr => by rwa [hr] at h, fun he => h.unique (show m.Answers n radius (some e) from he)⟩

theorem Answers.eq_none_iff {r : Option (Nat × LineOrigin)} (h : m.Answers n radius r) :
    r = none ↔ ∀ x ∈ m.entries, radius < n.dist x.1 :=
  ⟨fun hr => by rwa [hr] at h, fun hfar => h.unique (show m.Answers n radius none from hfar)⟩

/-! ## Searching on both sides -/

theorem lt_of_mem_dropWhile (h : e ∈ m.entries.dropWhile (·.1 ≤ n)) : n < e.1 := by
  have hasc := m.ascending.sublist (List.dropWhile_sublist (·.1 ≤ n))
  have hhead := List.head?_dropWhile_not (fun x : Nat × LineOrigin => decide (x.1 ≤ n)) m.entries
  generalize m.entries.dropWhile (·.1 ≤ n) = high at h hasc hhead
  cases high with
  | nil => exact absurd h List.not_mem_nil
  | cons x high =>
    have hx : n < x.1 := by simpa using hhead
    rcases List.mem_cons.mp h with rfl | h
    · exact hx
    · exact Nat.lt_trans hx ((List.pairwise_cons.mp hasc).1 e h)

/-- The entries up to a line and those above it are all entries. -/
theorem mem_takeWhile_or (h : e ∈ m.entries) :
    (e ∈ m.entries.takeWhile (·.1 ≤ n) ∧ e.1 ≤ n) ∨
      (e ∈ m.entries.dropWhile (·.1 ≤ n) ∧ n < e.1) := by
  rw [← List.takeWhile_append_dropWhile (p := (·.1 ≤ n)) (l := m.entries)] at h
  rcases List.mem_append.mp h with h | h
  · exact .inl ⟨h, by simpa using List.mem_takeWhile_imp h⟩
  · exact .inr ⟨h, lt_of_mem_dropWhile h⟩

/-- The last entry up to a line is the one nearest to it on this side. -/
theorem atOrBelow?_cases (m : LineTable) (n : Nat) :
    (m.atOrBelow? n = none ∧ ∀ x ∈ m.entries, n < x.1) ∨
      ∃ e, m.atOrBelow? n = some e ∧ e ∈ m.entries ∧ e.1 ≤ n ∧
        ∀ x ∈ m.entries, x.1 ≤ n → x.1 ≤ e.1 := by
  have hasc := m.ascending.sublist (List.takeWhile_sublist (·.1 ≤ n))
  cases hlast : m.atOrBelow? n with
  | none =>
    have hnil : m.entries.takeWhile (·.1 ≤ n) = [] := List.getLast?_eq_none_iff.mp hlast
    refine .inl ⟨rfl, fun x hx => ?_⟩
    rcases mem_takeWhile_or (n := n) hx with ⟨hlow, -⟩ | ⟨-, hlt⟩
    · exact absurd (hnil ▸ hlow) List.not_mem_nil
    · exact hlt
  | some e =>
    obtain ⟨front, hlow⟩ := List.getLast?_eq_some_iff.mp hlast
    have hmem : e ∈ m.entries.takeWhile (·.1 ≤ n) := by rw [hlow]; simp
    refine .inr ⟨e, rfl, (List.takeWhile_subset _) hmem, by simpa using List.mem_takeWhile_imp hmem,
      fun x hx hle => ?_⟩
    rcases mem_takeWhile_or (n := n) hx with ⟨hxlow, -⟩ | ⟨-, hlt⟩
    · rw [hlow] at hxlow hasc
      rcases List.mem_append.mp hxlow with hfront | hxe
      · exact Nat.le_of_lt ((List.pairwise_append.mp hasc).2.2 x hfront e List.mem_cons_self)
      · rw [List.mem_singleton.mp hxe]
    · omega

/-- The first entry above a line is the one nearest to it on that side. -/
theorem above?_cases (m : LineTable) (n : Nat) :
    (m.above? n = none ∧ ∀ x ∈ m.entries, x.1 ≤ n) ∨
      ∃ e, m.above? n = some e ∧ e ∈ m.entries ∧ n < e.1 ∧
        ∀ x ∈ m.entries, n < x.1 → e.1 ≤ x.1 := by
  have hasc := m.ascending.sublist (List.dropWhile_sublist (·.1 ≤ n))
  cases hhead : m.above? n with
  | none =>
    have hnil : m.entries.dropWhile (·.1 ≤ n) = [] := List.head?_eq_none_iff.mp hhead
    refine .inl ⟨rfl, fun x hx => ?_⟩
    rcases mem_takeWhile_or (n := n) hx with ⟨-, hle⟩ | ⟨hhigh, -⟩
    · exact hle
    · exact absurd (hnil ▸ hhigh) List.not_mem_nil
  | some e =>
    obtain ⟨back, hhigh⟩ := List.head?_eq_some_iff.mp hhead
    have hmem : e ∈ m.entries.dropWhile (·.1 ≤ n) := by rw [hhigh]; simp
    refine .inr ⟨e, rfl, (List.dropWhile_sublist _).subset hmem, lt_of_mem_dropWhile hmem,
      fun x hx hlt => ?_⟩
    rcases mem_takeWhile_or (n := n) hx with ⟨-, hle⟩ | ⟨hxhigh, -⟩
    · omega
    · rw [hhigh] at hxhigh hasc
      rcases List.mem_cons.mp hxhigh with rfl | hback
      · exact Nat.le_refl _
      · exact Nat.le_of_lt ((List.pairwise_cons.mp hasc).1 x hback)

/-- The last entry up to a line is left out if it is too far away, and then all are on this side. -/
theorem filter_atOrBelow?_cases (m : LineTable) (n radius : Nat) :
    ((m.atOrBelow? n).filter (fun e => n - e.1 ≤ radius) = none ∧
        ∀ x ∈ m.entries, x.1 ≤ n → radius < n - x.1) ∨
      ∃ e, (m.atOrBelow? n).filter (fun e => n - e.1 ≤ radius) = some e ∧ e ∈ m.entries ∧
        e.1 ≤ n ∧ n - e.1 ≤ radius ∧ ∀ x ∈ m.entries, x.1 ≤ n → x.1 ≤ e.1 := by
  rcases m.atOrBelow?_cases n with ⟨hnone, hall⟩ | ⟨e, hsome, hmem, hle, hlast⟩
  · refine .inl ⟨by rw [hnone]; rfl, fun x hx hxn => ?_⟩
    exact absurd (hall x hx) (Nat.not_lt_of_le hxn)
  · rw [hsome, Option.filter_some]
    by_cases hnear : n - e.1 ≤ radius
    · exact .inr ⟨e, if_pos (decide_eq_true hnear), hmem, hle, hnear, hlast⟩
    · refine .inl ⟨if_neg (by simpa using hnear), fun x hx hxn => ?_⟩
      have hxe := hlast x hx hxn
      omega

/-- So is the first entry above a line. -/
theorem filter_above?_cases (m : LineTable) (n radius : Nat) :
    ((m.above? n).filter (fun e => e.1 - n ≤ radius) = none ∧
        ∀ x ∈ m.entries, n < x.1 → radius < x.1 - n) ∨
      ∃ e, (m.above? n).filter (fun e => e.1 - n ≤ radius) = some e ∧ e ∈ m.entries ∧
        n < e.1 ∧ e.1 - n ≤ radius ∧ ∀ x ∈ m.entries, n < x.1 → e.1 ≤ x.1 := by
  rcases m.above?_cases n with ⟨hnone, hall⟩ | ⟨e, hsome, hmem, hlt, hfirst⟩
  · refine .inl ⟨by rw [hnone]; rfl, fun x hx hnx => ?_⟩
    exact absurd hnx (Nat.not_lt_of_le (hall x hx))
  · rw [hsome, Option.filter_some]
    by_cases hnear : e.1 - n ≤ radius
    · exact .inr ⟨e, if_pos (decide_eq_true hnear), hmem, hlt, hnear, hfirst⟩
    · refine .inl ⟨if_neg (by simpa using hnear), fun x hx hnx => ?_⟩
      have hex := hfirst x hx hnx
      omega

/-- The last entry up to a line is the nearest if none above the line is nearer. -/
theorem isNearest_of_below (hmem : e ∈ m.entries) (hle : e.1 ≤ n) (hwithin : n - e.1 ≤ radius)
    (hlast : ∀ x ∈ m.entries, x.1 ≤ n → x.1 ≤ e.1)
    (hhigh : ∀ x ∈ m.entries, n < x.1 → n - e.1 ≤ x.1 - n) : m.IsNearest n radius e := by
  refine ⟨hmem, by rwa [Nat.dist_eq_sub_of_le_right hle], fun x hx => ?_⟩
  have hlow := hlast x hx
  have hhigh := hhigh x hx
  simp only [Nat.dist]
  omega

/-- The first entry above a line is the nearest if all up to the line are farther. -/
theorem isNearest_of_above (hmem : e ∈ m.entries) (hlt : n < e.1) (hwithin : e.1 - n ≤ radius)
    (hfirst : ∀ x ∈ m.entries, n < x.1 → e.1 ≤ x.1)
    (hlow : ∀ x ∈ m.entries, x.1 ≤ n → e.1 - n < n - x.1) : m.IsNearest n radius e := by
  refine ⟨hmem, by rwa [Nat.dist_eq_sub_of_le hlt.le], fun x hx => ?_⟩
  have hlow := hlow x hx
  have hhigh := hfirst x hx
  simp only [Nat.dist]
  omega

/-- A search finds the nearest entry. -/
theorem near?_answers (m : LineTable) (n radius : Nat) :
    m.Answers n radius (m.near? n radius) := by
  have hbelow := m.filter_atOrBelow?_cases n radius
  have habove := m.filter_above?_cases n radius
  rw [near?]
  rcases hbelow with ⟨hbelow, hlow⟩ | ⟨b, hbelow, hb, hbn, hbr, hlast⟩ <;>
    rcases habove with ⟨habove, hhigh⟩ | ⟨a, habove, ha, hna, har, hfirst⟩ <;>
      rw [hbelow, habove]
  · intro x hx
    have hxlow := hlow x hx
    have hxhigh := hhigh x hx
    simp only [Nat.dist]
    omega
  · exact isNearest_of_above ha hna har hfirst fun x hx hxn => Nat.lt_of_le_of_lt har (hlow x hx hxn)
  · exact isNearest_of_below hb hbn hbr hlast fun x hx hnx =>
      Nat.le_trans hbr (Nat.le_of_lt (hhigh x hx hnx))
  · dsimp only
    split
    · next hnearer =>
      refine isNearest_of_below hb hbn hbr hlast fun x hx hnx => ?_
      exact Nat.le_trans hnearer (Nat.sub_le_sub_right (hfirst x hx hnx) n)
    · next hnearer =>
      refine isNearest_of_above ha hna har hfirst fun x hx hxn => ?_
      exact Nat.lt_of_lt_of_le (Nat.lt_of_not_le hnearer) (Nat.sub_le_sub_left (hlast x hx hxn) n)

/-! ## Probing -/

open Word32

/-- The entry for a line. -/
def entryAt? (m : LineTable) (n : UInt32) : Option (Nat × LineOrigin) :=
  (m.get? n.toNat).map (n.toNat, ·)

/-- The entry at a distance from a line, the one below before the one above. -/
def atDistance? (m : LineTable) (n d : UInt32) : Option (Nat × LineOrigin) :=
  ((minus? n d).bind m.entryAt?).or ((plus? n d).bind m.entryAt?)

/-- The first entry that is met at distances from a line that go from zero to the radius. -/
def probe? (m : LineTable) (n radius : UInt32) : Option (Nat × LineOrigin) :=
  (m.entryAt? n).or <|
    (List.range' 1 radius.toNat).findSome? fun d => m.atDistance? n (.ofNat d)

/-- Whether all lines of a table are words. -/
def OnWords (m : LineTable) : Prop :=
  ∀ e ∈ m.entries, e.1 ≤ Text.maxWord32

section Probing

variable {n d : UInt32}

theorem entryAt?_eq_some_iff : m.entryAt? n = some e ↔ e ∈ m.entries ∧ e.1 = n.toNat := by
  rw [entryAt?, Option.map_eq_some_iff]
  constructor
  · rintro ⟨o, ho, rfl⟩
    exact ⟨get?_eq_some_iff.mp ho, rfl⟩
  · rintro ⟨hmem, hn⟩
    exact ⟨e.2, get?_eq_some_iff.mpr (hn ▸ hmem), by rw [← hn]⟩

theorem minus?_bind_eq_some_iff :
    (minus? n d).bind m.entryAt? = some e ↔ e ∈ m.entries ∧ e.1 + d.toNat = n.toNat := by
  rw [Option.bind_eq_some_iff]
  constructor
  · rintro ⟨k, hk, he⟩
    obtain ⟨hmem, hline⟩ := entryAt?_eq_some_iff.mp he
    exact ⟨hmem, hline ▸ minus?_eq_some_iff.mp hk⟩
  · rintro ⟨hmem, hline⟩
    have hn := n.toNat_lt
    have hk : (UInt32.ofNat e.1).toNat = e.1 :=
      UInt32.toNat_ofNat_of_lt' (show e.1 < 2 ^ 32 by omega)
    exact ⟨.ofNat e.1, minus?_eq_some_iff.mpr (by rwa [hk]),
      entryAt?_eq_some_iff.mpr ⟨hmem, hk.symm⟩⟩

theorem plus?_bind_eq_some_iff (hm : m.OnWords) :
    (plus? n d).bind m.entryAt? = some e ↔ e ∈ m.entries ∧ n.toNat + d.toNat = e.1 := by
  rw [Option.bind_eq_some_iff]
  constructor
  · rintro ⟨k, hk, he⟩
    obtain ⟨hmem, hline⟩ := entryAt?_eq_some_iff.mp he
    exact ⟨hmem, hline ▸ plus?_eq_some_iff.mp hk⟩
  · rintro ⟨hmem, hline⟩
    have hword : e.1 < 2 ^ 32 := Nat.lt_succ_of_le (hm e hmem)
    have hk : (UInt32.ofNat e.1).toNat = e.1 := UInt32.toNat_ofNat_of_lt' hword
    exact ⟨.ofNat e.1, plus?_eq_some_iff.mpr (by rwa [hk]),
      entryAt?_eq_some_iff.mpr ⟨hmem, hk.symm⟩⟩

/-- At a distance the entry below is met first, and no entry is passed over. -/
theorem atDistance?_cases (hm : m.OnWords) (n d : UInt32) :
    (m.atDistance? n d = none ∧ ∀ x ∈ m.entries, n.toNat.dist x.1 ≠ d.toNat) ∨
      ∃ e, m.atDistance? n d = some e ∧ e ∈ m.entries ∧ n.toNat.dist e.1 = d.toNat ∧
        ∀ x ∈ m.entries, n.toNat.dist x.1 = d.toNat → e.1 ≤ x.1 := by
  have hsides : ∀ k, n.toNat.dist k = d.toNat → k + d.toNat = n.toNat ∨ n.toNat + d.toNat = k := by
    intro k hk
    simp only [Nat.dist] at hk
    omega
  rw [atDistance?]
  cases hbelow : (minus? n d).bind m.entryAt? with
  | some e =>
    obtain ⟨hmem, hline⟩ := minus?_bind_eq_some_iff.mp hbelow
    -- an entry below, and an entry above would be of a higher line
    refine .inr ⟨e, rfl, hmem, by simp only [Nat.dist]; omega, fun x _ hx => ?_⟩
    rcases hsides x.1 hx with hxline | hxline <;> omega
  | none =>
    have hnone : ∀ x ∈ m.entries, x.1 + d.toNat ≠ n.toNat := by
      intro x hx hline
      rw [minus?_bind_eq_some_iff.mpr ⟨hx, hline⟩] at hbelow
      exact absurd hbelow (by simp)
    cases habove : (plus? n d).bind m.entryAt? with
    | some e =>
      obtain ⟨hmem, hline⟩ := (plus?_bind_eq_some_iff hm).mp habove
      -- an entry above, as there is none below
      refine .inr ⟨e, rfl, hmem, by simp only [Nat.dist]; omega, fun x hmemx hx => ?_⟩
      rcases hsides x.1 hx with hxline | hxline
      · exact absurd hxline (hnone x hmemx)
      · omega
    | none =>
      refine .inl ⟨rfl, fun x hmemx hx => ?_⟩
      rcases hsides x.1 hx with hxline | hxline
      · exact hnone x hmemx hxline
      · rw [(plus?_bind_eq_some_iff hm).mpr ⟨hmemx, hxline⟩] at habove
        exact absurd habove (by simp)

/-- The line itself is distance zero. -/
theorem entryAt?_answers (m : LineTable) (n : UInt32) : m.Answers n.toNat 0 (m.entryAt? n) := by
  cases hat : m.entryAt? n with
  | some e =>
    obtain ⟨hmem, hline⟩ := entryAt?_eq_some_iff.mp hat
    refine ⟨hmem, by simp [hline], fun x hx => ?_⟩
    simp only [Nat.dist]
    omega
  | none =>
    intro x hx
    refine Nat.pos_of_ne_zero fun hzero => ?_
    rw [entryAt?_eq_some_iff.mpr ⟨hx, (Nat.eq_of_dist_eq_zero hzero).symm⟩] at hat
    exact absurd hat (by simp)

/-- One step further: what was found stays, and where nothing was found the entries at the next
distance are the nearest. -/
theorem Answers.next (hm : m.OnWords) {r : Option (Nat × LineOrigin)}
    (h : m.Answers n.toNat radius r) (hd : d.toNat = radius + 1) :
    m.Answers n.toNat (radius + 1) (r.or (m.atDistance? n d)) := by
  cases r with
  | some e => exact ⟨h.mem, Nat.le_succ_of_le h.within, h.least⟩
  | none =>
    rw [Option.none_or]
    rcases atDistance?_cases hm n d with ⟨hnone, hfar⟩ | ⟨e, hsome, hmem, hdist, hlow⟩
    · rw [hnone]
      intro x hx
      have hxr := h x hx
      have hxd := hfar x hx
      omega
    · rw [hsome]
      refine ⟨hmem, by omega, fun x hx => ?_⟩
      have hxr := h x hx
      rcases Nat.lt_or_eq_of_le (Nat.succ_le_of_lt hxr) with hlt | heq
      · exact .inl (by omega)
      · exact .inr ⟨by omega, hlow x hx (by omega)⟩

/-- Probing up to a distance finds the nearest entry within it. -/
theorem probed_answers (hm : m.OnWords) (n : UInt32) (k : Nat) (hk : k < 2 ^ 32) :
    m.Answers n.toNat k <| (m.entryAt? n).or <|
      (List.range' 1 k).findSome? fun d => m.atDistance? n (.ofNat d) := by
  induction k with
  | zero =>
    rw [List.range'_zero, List.findSome?_nil, Option.or_none]
    exact m.entryAt?_answers n
  | succ k ih =>
    have hd : (UInt32.ofNat (1 + k)).toNat = k + 1 := by
      rw [UInt32.toNat_ofNat_of_lt' (show 1 + k < 2 ^ 32 by omega), Nat.add_comm]
    rw [List.range'_1_concat, List.findSome?_append, ← Option.or_assoc, List.findSome?_singleton]
    exact (ih (by omega)).next hm hd

end Probing

/-- Probing on machine words finds what a search finds: the nearest entry within the radius, of two
at the same distance the one below, and nothing where all entries are beyond it. What is looked up
at a distance is the difference and the sum themselves; where one of them is no word, that side has
come to its end. -/
theorem probe?_nearest (hm : m.OnWords) (n radius : UInt32) :
    m.probe? n radius = m.near? n.toNat radius.toNat ∧
      (∀ e, m.near? n.toNat radius.toNat = some e ↔ m.IsNearest n.toNat radius.toNat e) ∧
      (m.near? n.toNat radius.toNat = none ↔
        ∀ x ∈ m.entries, radius.toNat < n.toNat.dist x.1) ∧
      (∀ d k, minus? n d = some k ↔ k.toNat + d.toNat = n.toNat) ∧
      ∀ d k, plus? n d = some k ↔ n.toNat + d.toNat = k.toNat := by
  have hnear := m.near?_answers n.toNat radius.toNat
  have hprobe : m.Answers n.toNat radius.toNat (m.probe? n radius) :=
    probed_answers hm n radius.toNat radius.toNat_lt
  exact ⟨hprobe.unique hnear, fun _ => hnear.eq_some_iff, hnear.eq_none_iff,
    fun _ _ => minus?_eq_some_iff, fun _ _ => plus?_eq_some_iff⟩

/-- A table with entries near both ends of the words. -/
def edgeTable : LineTable :=
  .ofList [(4294967293, ⟨9, "__h0", "onClick on <b>"⟩), (3, ⟨2, "s0", "script"⟩)]

/-- From the last word the one side ends at once; from the middle both entries are equally far. -/
theorem edgeTable_probed :
    edgeTable.OnWords ∧
      edgeTable.probe? 4294967295 4294967295 =
        some (4294967293, ⟨9, "__h0", "onClick on <b>"⟩) ∧
      edgeTable.probe? 2147483648 2147483645 = some (3, ⟨2, "s0", "script"⟩) ∧
      edgeTable.probe? 0 2 = none := by
  have hwords : edgeTable.OnWords := by
    have hall : edgeTable.entries.all (fun e => decide (e.1 ≤ Text.maxWord32)) = true := by decide
    simpa [OnWords] using hall
  refine ⟨hwords, ?_, ?_, ?_⟩
  · rw [(probe?_nearest hwords _ _).1]
    decide
  · rw [(probe?_nearest hwords _ _).1]
    decide
  · rw [(probe?_nearest hwords _ _).1]
    decide

end LineTable

end AppBundle
