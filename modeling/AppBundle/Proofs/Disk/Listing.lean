import AppBundle.Proofs.Disk.Folders
import Mathlib.Data.List.Nodup

/-!
# Listing folders

A disk is *listed* if one item at most stands at every place, by a name that a folder may hold. Then
the names in a folder are those of all that stands in it, each of them once (`Disk.mem_names`,
`Disk.nodup_names`). A disk stays listed whatever is done on it.
-/

namespace AppBundle

namespace Path

/-- A name that a folder may hold. -/
def Fits (name : String) : Prop :=
  IsName name ∧ name.utf8ByteSize ≤ nameLimit

instance (name : String) : Decidable (Fits name) :=
  inferInstanceAs
    (Decidable ((isIdle name = false ∧ name ≠ "..") ∧ name.utf8ByteSize ≤ nameLimit))

end Path

namespace Disk

variable {d d' : Disk} {p q : Place} {i : Item} {name : String}

/-- One item stands at every place at most, by a name that a folder may hold. -/
structure Listed (d : Disk) : Prop where
  nodup : (d.items.map (·.1)).Nodup
  fits : ∀ x ∈ d.items, ∀ name ∈ x.1, Path.Fits name

/-! ## What is listed -/

theorem get?_of_mem (h : d.Listed) (hq : q ≠ []) (hmem : (q, i) ∈ d.items) :
    d.get? q = some i := by
  obtain ⟨x, hx⟩ := Option.isSome_iff_exists.mp
    (List.find?_isSome (p := fun x : Place × Item => decide (x.1 = q)) |>.mpr
      ⟨_, hmem, by simp⟩)
  have hplace : x.1 = q := by simpa using List.find?_some hx
  have heq : x = (q, i) :=
    List.inj_on_of_nodup_map h.nodup (List.mem_of_find?_eq_some hx) hmem hplace
  rw [get?, if_neg hq, hx, heq]
  rfl

theorem mem_of_get? (hq : q ≠ []) (hget : d.get? q = some i) : (q, i) ∈ d.items := by
  rw [get?, if_neg hq] at hget
  obtain ⟨x, hx, rfl⟩ := Option.map_eq_some_iff.mp hget
  have hplace : x.1 = q := by simpa using List.find?_some hx
  rw [← hplace]
  exact List.mem_of_find?_eq_some hx

/-- The name of a place in a folder. -/
def nameIn (p q : Place) : Option String :=
  match q.getLast? with
  | some name => if q.dropLast = p then some name else none
  | none => none

theorem nameIn_eq_some : nameIn p q = some name ↔ q = p ++ [name] := by
  constructor
  · intro h
    unfold nameIn at h
    split at h
    · next name' hlast =>
      split_ifs at h with hfolder
      obtain rfl := Option.some.inj h
      rw [← hfolder]
      exact (List.dropLast_append_getLast? name' hlast).symm
    · exact absurd h (by simp)
  · rintro rfl
    simp [nameIn]

theorem names_eq (d : Disk) (p : Place) : d.names p = (d.items.map (·.1)).filterMap (nameIn p) := by
  rw [List.filterMap_map]
  rfl

/-- The names in a folder are those of what stands in it. -/
theorem mem_names (h : d.Listed) : name ∈ d.names p ↔ ∃ i, d.get? (p ++ [name]) = some i := by
  have hne : p ++ [name] ≠ [] := by simp
  rw [names_eq, List.mem_filterMap]
  constructor
  · rintro ⟨q, hq, hname⟩
    obtain rfl := nameIn_eq_some.mp hname
    obtain ⟨⟨_, i⟩, hmem, rfl⟩ := List.mem_map.mp hq
    exact ⟨i, get?_of_mem h hne hmem⟩
  · rintro ⟨i, hget⟩
    exact ⟨_, List.mem_map_of_mem (mem_of_get? hne hget), nameIn_eq_some.mpr rfl⟩

/-- Each of them is there once. -/
theorem nodup_names (h : d.Listed) (p : Place) : (d.names p).Nodup := by
  rw [names_eq]
  refine h.nodup.filterMap fun q q' name hq hq' => ?_
  rw [nameIn_eq_some.mp hq, nameIn_eq_some.mp hq']

theorem fits_of_get? (h : d.Listed) (hget : d.get? (p ++ [name]) = some i) : Path.Fits name :=
  h.fits _ (mem_of_get? (by simp) hget) name (by simp)

/-- A folder is listed in the order of its names. -/
theorem run_list {p : Path} (hplace : d.place p = .ok q) (hfolder : d.get? q = some .folder) :
    d.run (list p) = (.ok (d.names q).mergeSort, d) := by
  unfold list
  rw [run_bind, run_locate, hplace]
  show d.run (get >>= _) = _
  rw [run_get_bind, hfolder]
  rfl

/-! ## What stays listed -/

theorem listed_empty : Listed empty := ⟨List.nodup_nil, fun _ h => absurd h List.not_mem_nil⟩

theorem Listed.filter (h : d.Listed) (keep : Place × Item → Bool) :
    Listed ⟨d.items.filter keep⟩ where
  nodup := h.nodup.sublist (List.filter_sublist.map _)
  fits x hx := h.fits x (List.mem_filter.mp hx).1

theorem Listed.drop (h : d.Listed) (p : Place) : (d.drop p).Listed := h.filter _

theorem Listed.dropTree (h : d.Listed) (p : Place) : (d.dropTree p).Listed := h.filter _

theorem Listed.put (h : d.Listed) (hp : ∀ name ∈ p, Path.Fits name) (i : Item) :
    (d.put p i).Listed where
  nodup := by
    refine List.nodup_cons.mpr ⟨?_, (h.drop p).nodup⟩
    intro hmem
    obtain ⟨x, hx, heq⟩ := List.mem_map.mp hmem
    simpa [heq] using (List.mem_filter.mp hx).2
  fits x hx := by
    rcases List.mem_cons.mp hx with rfl | hx
    · exact hp
    · exact (h.drop p).fits x hx

theorem fits_enter {here : Place} {part : String} (hhere : ∀ name ∈ here, Path.Fits name)
    (hpart : Enters part) : ∀ name ∈ Path.enter here part, Path.Fits name := by
  intro name hname
  unfold Path.enter at hname
  split_ifs at hname with hidle hup
  · exact hhere name hname
  · exact hhere name ((List.dropLast_sublist here).subset hname)
  · rcases List.mem_append.mp hname with hname | hname
    · exact hhere name hname
    · obtain rfl := List.mem_singleton.mp hname
      exact ⟨⟨by simpa using hidle, hup⟩, (hpart.resolve_left hidle).resolve_left hup⟩

/-- A path leads by names that folders may hold. -/
theorem fits_of_placeFrom {here : Place} {p : Path} (hhere : ∀ name ∈ here, Path.Fits name)
    (h : d.placeFrom here p = .ok q) : ∀ name ∈ q, Path.Fits name := by
  induction p generalizing here with
  | nil =>
    obtain rfl := Except.ok.inj h
    exact hhere
  | cons part p ih =>
    obtain ⟨-, henters, hrest⟩ := placeFrom_cons_eq_ok.mp h
    exact ih (fits_enter hhere henters) hrest

theorem fits_of_place {p : Path} (h : d.place p = .ok q) : ∀ name ∈ q, Path.Fits name := by
  rw [place] at h
  split at h
  · exact absurd h (by simp)
  · exact fits_of_placeFrom (by simp) h

/-- A disk stays listed. -/
def KeepsListed (d d' : Disk) : Prop := d.Listed → d'.Listed

instance : IsPreorder Disk KeepsListed where
  refl _ h := h
  trans _ _ _ h h' hd := h' (h hd)

theorem listed_writeText (p : Path) (s : String) : Leads KeepsListed (writeText p s) := by
  intro d
  rcases write_cases d p (Text.encode s.toList) with hno | ⟨hlast, hplace, hget⟩
  · exact hno.leads
  · rw [writeText, run_write hlast hplace hget]
    exact fun h => h.put (fits_of_place hplace) _

theorem listed_remove (p : Path) : Leads KeepsListed (remove p) := by
  intro d
  rcases remove_cases d p with hno | ⟨bytes, -, hrun⟩
  · exact hno.leads
  · rw [hrun]
    exact fun h => h.drop _

theorem listed_rename (source target : Path) : Leads KeepsListed (rename source target) := by
  intro d
  rcases rename_cases d source target with hno | ⟨bytes, -, hplace, -, hrun⟩
  · exact hno.leads
  · rw [hrun]
    exact fun h => (h.drop _).put (fits_of_place hplace) _

theorem listed_makeFolders (p : Path) : Leads KeepsListed (makeFolders p) := by
  have hmake : ∀ p, Leads KeepsListed (makeFolder p) := by
    intro p d
    rcases makeFolder_cases d p with hno | ⟨hplace, hget⟩
    · exact hno.leads
    · rw [run_makeFolder hplace hget]
      exact fun h => h.put (fits_of_place hplace) _
  exact leads_makeFolders (hmake p) fun q _ => hmake q

end Disk

end AppBundle
