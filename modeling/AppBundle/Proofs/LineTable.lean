import AppBundle.LineTable
import Mathlib.Data.List.Induction
import Mathlib.Tactic.Common

/-!
# Line tables as sets of entries

A line table has at most one entry for a line, so looking a line up and being among the entries say
the same (`LineTable.get?_eq_some_iff`). A table that is built from pairs gives a line the origin of
its last pair (`LineTable.get?_ofList`), and if the pairs are in the order of their lines it holds
just these pairs.
-/

namespace AppBundle

namespace LineTable

variable {m : LineTable} {n : Nat} {o : LineOrigin}

/-- Looking a line up finds its entry. -/
theorem get?_eq_some_iff : m.get? n = some o ↔ (n, o) ∈ m.entries := by
  constructor
  · intro h
    obtain ⟨e, he, rfl⟩ := Option.map_eq_some_iff.mp h
    have hn : e.1 = n := by simpa using List.find?_some he
    rw [← hn]
    exact List.mem_of_find?_eq_some he
  · intro h
    obtain ⟨front, back, hsplit⟩ := List.append_of_mem h
    have hasc := m.ascending
    rw [hsplit] at hasc
    have hbelow : ∀ e ∈ front, ¬ (e.1 = n) := by
      intro e he
      have := (List.pairwise_append.mp hasc).2.2 e he (n, o) (by simp)
      simp only at this
      omega
    have hfront : front.find? (fun e => decide (e.1 = n)) = none := by
      simpa [List.find?_eq_none] using hbelow
    rw [get?, hsplit, List.find?_append, hfront]
    simp

/-- The first line of an owner is the least one. -/
theorem findOwner?_eq_some (h : (n, o) ∈ m.entries)
    (hleast : ∀ e ∈ m.entries, e.2.owner = o.owner → n ≤ e.1) :
    m.findOwner? o.owner = some (n, o) := by
  obtain ⟨front, back, hsplit⟩ := List.append_of_mem h
  have hasc := m.ascending
  rw [hsplit] at hasc
  have hother : ∀ e ∈ front, ¬ (e.2.owner = o.owner) := by
    intro e he howner
    have hlt := (List.pairwise_append.mp hasc).2.2 e he (n, o) (by simp)
    have hle := hleast e (by rw [hsplit]; exact List.mem_append_left _ he) howner
    simp only at hlt
    omega
  have hfront : front.find? (fun e => decide (e.2.owner = o.owner)) = none := by
    simpa [List.find?_eq_none] using hother
  rw [findOwner?, hsplit, List.find?_append, hfront]
  simp

/-- An entry for a line behind all others goes to the end. -/
theorem insertEntry_of_forall_lt {es : List (Nat × LineOrigin)} (h : ∀ e ∈ es, e.1 < n) :
    insertEntry n o es = es ++ [(n, o)] := by
  induction es with
  | nil => rfl
  | cons e es ih =>
    have he : e.1 < n := h e (by simp)
    rw [insertEntry, if_neg (by omega), if_neg (by omega), ih fun x hx => h x (by simp [hx])]
    rfl

/-- Pairs in the order of their lines are the entries of the table that they make up. -/
theorem entries_ofList {es : List (Nat × LineOrigin)} (h : es.Pairwise (·.1 < ·.1)) :
    (ofList es).entries = es := by
  -- the table so far holds lines below all that are still to come
  have key : ∀ (es : List (Nat × LineOrigin)) (m : LineTable), es.Pairwise (·.1 < ·.1) →
      (∀ e ∈ m.entries, ∀ x ∈ es, e.1 < x.1) →
      (es.foldl (fun m e => m.insert e.1 e.2) m).entries = m.entries ++ es := by
    intro es
    induction es with
    | nil =>
      intro m _ _
      simp
    | cons x es ih =>
      intro m hes hm
      obtain ⟨hx, hrest⟩ := List.pairwise_cons.mp hes
      have hins : (m.insert x.1 x.2).entries = m.entries ++ [x] :=
        insertEntry_of_forall_lt fun e he => hm e he x (by simp)
      rw [List.foldl_cons, ih _ hrest, hins, List.append_assoc]
      · rfl
      · intro e he y hy
        rw [hins] at he
        rcases List.mem_append.mp he with he | he
        · exact hm e he y (by simp [hy])
        · rw [List.mem_singleton.mp he]
          exact hx y hy
  exact key es empty h (by simp [empty])

/-- A table is built again from its entries. -/
theorem ofList_entries (m : LineTable) : ofList m.entries = m := by
  have hentries : (ofList m.entries).entries = m.entries := entries_ofList m.ascending
  generalize ofList m.entries = m' at hentries
  obtain ⟨es, _⟩ := m
  obtain ⟨es', _⟩ := m'
  obtain rfl : es' = es := hentries
  rfl

/-! ## Adding pairs -/

theorem find?_insertEntry (k n : Nat) (o : LineOrigin) (es : List (Nat × LineOrigin)) :
    (insertEntry k o es).find? (·.1 = n) = if k = n then some (k, o) else es.find? (·.1 = n) := by
  induction es with
  | nil => by_cases hk : k = n <;> simp [insertEntry, hk]
  | cons e es ih =>
    obtain ⟨line, o'⟩ := e
    rw [insertEntry]
    split
    · by_cases hk : k = n <;> simp [hk]
    · split
      · next heq => by_cases hk : k = n <;> simp [hk, ← heq]
      · next hne =>
        by_cases hline : line = n
        · have hk : k ≠ n := by omega
          simp [hline, hk]
        · simp [hline, ih]

/-- A pair gives its line a new origin and leaves the other lines alone. -/
theorem get?_insert (m : LineTable) (k n : Nat) (o : LineOrigin) :
    (m.insert k o).get? n = if k = n then some o else m.get? n := by
  rw [get?, insert, find?_insertEntry]
  split <;> rfl

/-- Of several pairs for one line the last counts. -/
theorem get?_ofList (pairs : List (Nat × LineOrigin)) (n : Nat) :
    (ofList pairs).get? n = (pairs.reverse.find? (·.1 = n)).map (·.2) := by
  induction pairs using List.reverseRecOn with
  | nil => rfl
  | append_singleton pairs p ih =>
    have hlast : ofList (pairs ++ [p]) = (ofList pairs).insert p.1 p.2 := List.foldl_append
    rw [hlast, get?_insert, ih, List.reverse_append, List.reverse_singleton, List.singleton_append,
      List.find?_cons]
    by_cases hp : p.1 = n <;> simp [hp]

/-! ## Searching -/

/-- A search around a line with an origin finds the line itself. -/
theorem near?_of_get? (h : m.get? n = some o) (radius : Nat) : m.near? n radius = some (n, o) := by
  obtain ⟨front, back, hsplit⟩ := List.append_of_mem (get?_eq_some_iff.mp h)
  have hasc := m.ascending
  rw [hsplit] at hasc
  obtain ⟨-, hback, hfront⟩ := List.pairwise_append.mp hasc
  have hle : ∀ e ∈ front, decide (e.1 ≤ n) = true := by
    intro e he
    exact decide_eq_true (Nat.le_of_lt (hfront e he (n, o) (by simp)))
  -- the entry is the last one at or below the line
  have hbelow : m.atOrBelow? n = some (n, o) := by
    have hstop : back.takeWhile (·.1 ≤ n) = [] := by
      cases back with
      | nil => rfl
      | cons e back =>
        have hlt := (List.pairwise_cons.mp hback).1 e (by simp)
        rw [List.takeWhile_cons_of_neg (by simpa using hlt)]
    rw [atOrBelow?, hsplit, List.takeWhile_append_of_pos hle,
      List.takeWhile_cons_of_pos (by simp), hstop, List.getLast?_concat]
  have hnear : (m.atOrBelow? n).filter (fun e => decide (n - e.1 ≤ radius)) = some (n, o) := by
    rw [hbelow, Option.filter_some, Nat.sub_self, if_pos (decide_eq_true (Nat.zero_le radius))]
  simp only [near?, hnear]
  split
  · next b _ hb _ =>
    obtain rfl := Option.some.inj hb
    rw [Nat.sub_self, if_pos (Nat.zero_le _)]
  · next hb _ => exact hb.symm
  · next hb => exact absurd hb (by simp)

end LineTable

end AppBundle
