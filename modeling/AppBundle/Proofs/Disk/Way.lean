import AppBundle.Proofs.Disk.Folders

/-!
# The way of a path

The *way* of a path are the places at which its parts are looked up, and the one to which it leads. A
path reaches a folder if folders stand all along its way, so it goes on doing so as long as these
stay (`Disk.Reaches.of_way`), whatever becomes of others. A place that is not on the way of a path
has nothing below it that is (`Path.mem_way_of_prefix`). The folders of a path are made on its way
(`Disk.foundsAt_makeFolders`).
-/

namespace AppBundle

namespace Path

/-- The places at which the parts of a path are looked up, and the one to which it leads. -/
def way (here : Place) : Path → List Place
  | [] => [here]
  | part :: rest => here :: way (enter here part) rest

variable {here q r : Place} {p : Path}

/-- Nothing is entered but what lies above, the place itself, or the next place. -/
theorem prefix_of_prefix_enter {part : String} (h : q <+: enter here part) :
    q <+: here ∨ q = enter here part := by
  unfold enter at h ⊢
  split
  · next hidle => exact .inl (by rwa [if_pos hidle] at h)
  · next hidle =>
    rw [if_neg hidle] at h
    split
    · next hup =>
      rw [if_pos hup] at h
      exact .inl (h.trans (List.dropLast_prefix here))
    · next hup =>
      rw [if_neg hup] at h
      exact (List.prefix_concat_iff.mp h).symm

theorem here_mem_way (here : Place) (p : Path) : here ∈ way here p := by
  cases p <;> simp [way]

theorem target_mem_way (here : Place) (p : Path) : target here p ∈ way here p := by
  induction p generalizing here with
  | nil => simp [target, way]
  | cons part p ih =>
    rw [target_cons]
    exact List.mem_cons_of_mem _ (ih _)

/-- A place above one on the way is on the way, if it is not above the beginning. -/
theorem prefix_or_mem_way (hr : r ∈ way here p) (hq : q <+: r) : q <+: here ∨ q ∈ way here p := by
  induction p generalizing here with
  | nil =>
    obtain rfl := List.mem_singleton.mp hr
    exact .inl hq
  | cons part p ih =>
    rcases List.mem_cons.mp hr with rfl | hr
    · exact .inl hq
    · rcases ih hr with henter | hmem
      · rcases prefix_of_prefix_enter henter with hhere | rfl
        · exact .inl hhere
        · exact .inr (List.mem_cons_of_mem _ (here_mem_way _ p))
      · exact .inr (List.mem_cons_of_mem _ hmem)

/-- All places above one on the way are on the way. -/
theorem mem_way_of_prefix (hr : r ∈ way [] p) (hq : q <+: r) : q ∈ way [] p := by
  rcases prefix_or_mem_way hr hq with hroot | hmem
  · rw [List.prefix_nil.mp hroot]
    exact here_mem_way [] p
  · exact hmem

/-- The first parts of a path that lead anywhere lead along its way. -/
theorem target_mem_way_of_prefix {front : Path} (h : front <+: p.filter (!isIdle ·)) :
    target here front ∈ way here p := by
  induction p generalizing here front with
  | nil =>
    rw [List.filter_nil, List.prefix_nil] at h
    rw [h]
    exact here_mem_way here []
  | cons part p ih =>
    by_cases hidle : isIdle part = true
    · have henter : enter here part = here := by rw [enter, if_pos hidle]
      rw [List.filter_cons_of_neg (by simp [hidle])] at h
      rw [way, henter]
      exact List.mem_cons_of_mem _ (ih h)
    · rw [List.filter_cons_of_pos (by simp [hidle])] at h
      cases front with
      | nil => exact here_mem_way here _
      | cons part' front =>
        obtain ⟨rfl, hfront⟩ := List.cons_prefix_cons.mp h
        rw [target_cons]
        exact List.mem_cons_of_mem _ (ih hfront)

/-- The way of a path that only descends leads from above to its place. -/
theorem prefix_target_of_mem_way (hp : p.Descends) (hq : q ∈ way here p) : q <+: target here p := by
  induction p generalizing here with
  | nil =>
    rw [List.mem_singleton.mp hq]
    exact List.prefix_rfl
  | cons part p ih =>
    have hrest : Descends p := fun x hx => hp x (List.mem_cons_of_mem _ hx)
    rcases List.mem_cons.mp hq with rfl | hq
    · rw [target_of_descends _ hp]
      exact List.prefix_append _ _
    · rw [target_cons]
      exact ih hrest hq

end Path

namespace Disk

variable {d d' : Disk} {here q : Place} {p : Path}

theorem folder_of_mem_way (h : d.placeFrom here p = .ok q) (hq : d.get? q = some .folder) :
    ∀ r ∈ Path.way here p, d.get? r = some .folder := by
  induction p generalizing here with
  | nil =>
    intro r hr
    rw [List.mem_singleton.mp hr]
    obtain rfl := Except.ok.inj h
    exact hq
  | cons part p ih =>
    obtain ⟨hhere, -, hrest⟩ := placeFrom_cons_eq_ok.mp h
    intro r hr
    rcases List.mem_cons.mp hr with rfl | hr
    · exact hhere
    · exact ih hrest r hr

theorem placeFrom_of_way (h : d.placeFrom here p = .ok q)
    (hway : ∀ r ∈ Path.way here p, d.get? r = some .folder → d'.get? r = some .folder) :
    d'.placeFrom here p = .ok q := by
  induction p generalizing here with
  | nil => exact h
  | cons part p ih =>
    obtain ⟨hhere, henters, hrest⟩ := placeFrom_cons_eq_ok.mp h
    have hhere' := hway here (Path.here_mem_way here _) hhere
    have hrest' := ih hrest fun r hr => hway r (List.mem_cons_of_mem _ hr)
    exact placeFrom_cons_eq_ok.mpr ⟨hhere', henters, hrest'⟩

/-- Folders stand all along the way of a path that reaches one. -/
theorem Reaches.folder (h : d.Reaches p) : ∀ r ∈ Path.way [] p, d.get? r = some .folder :=
  folder_of_mem_way h.1 h.2

/-- A path reaches its folder as long as the folders along its way stay. -/
theorem Reaches.of_way (h : d.Reaches p)
    (hway : ∀ r ∈ Path.way [] p, d.get? r = some .folder → d'.get? r = some .folder) :
    d'.Reaches p :=
  ⟨placeFrom_of_way h.1 hway, hway _ (Path.target_mem_way [] p) h.2⟩

/-! ## Folders that are made on the way -/

/-- The folders of a path are made on its way. -/
theorem foundsAt_makeFolders (p : Path) :
    Leads (FoundsAt (· ∈ Path.way [] p)) (makeFolders p) := by
  refine leads_makeFolders (foundsAt_makeFolder (Path.target_mem_way [] p)) fun q hq => ?_
  exact foundsAt_makeFolder (Path.target_mem_way_of_prefix (hq.trans (List.dropLast_prefix _)))

/-- Nothing is missing on the way of a path that reaches its folder. -/
theorem Reaches.get?_of_foundsAt (h : d.Reaches p) (hfounds : FoundsAt (· ∈ Path.way [] p) d d')
    (q : Place) : d'.get? q = d.get? q := by
  rcases hfounds q with hsame | ⟨hway, hnone, -⟩
  · exact hsame
  · rw [h.folder q hway] at hnone
    exact absurd hnone (by simp)

/-- Where a path only descends, folders on its way are folders on the way to its place. -/
theorem FoundsAt.founds (h : FoundsAt (· ∈ Path.way [] p) d d') (hp : p.Descends) :
    Founds (p.target []) d d' :=
  h.mono fun _ hq => Path.prefix_target_of_mem_way hp hq

/-! ## Names in a folder -/

/-- A path leads to a name in a folder if it gets to the folder, and neither name nor path is too
long. -/
theorem place_child_eq_ok {name : String} (hname : Path.IsName name) :
    d.place (p.child name) = .ok q ↔
      d.Reaches p ∧ name.utf8ByteSize ≤ Path.nameLimit ∧
        (p.child name).text.utf8ByteSize < Path.limit ∧ q = p.target [] ++ [name] := by
  constructor
  · intro h
    have hreaches := reaches_of_child hname h
    obtain ⟨base, hchild, htarget, hbase⟩ := d.exists_child p
    obtain ⟨hwalk, hfolder⟩ := hbase.mpr hreaches
    rw [place] at h
    split at h
    · exact absurd h (by simp)
    · next hlimit =>
      rw [hchild] at h
      simp only [placeFrom_append, hwalk, placeFrom_name _ _ hname, hfolder] at h
      split at h
      · exact absurd h (by simp)
      · next hshort =>
        rw [htarget] at h
        exact ⟨hreaches, Nat.not_lt.mp hshort, Nat.not_le.mp hlimit, (Except.ok.inj h).symm⟩
  · rintro ⟨hreaches, hshort, hlimit, rfl⟩
    rw [hreaches.place_child hname hshort, if_neg (Nat.not_le.mpr hlimit)]

end Disk

end AppBundle
