import AppBundle.Proofs.Disk.Folders

/-!
# What operations leave alone

A *frame* between two disks is given by two sets of items at places. What is in the first set stays:
it is on the later disk if it was on the earlier one. What is in the second set stood there: it was on
the earlier disk if it is on the later one. Frames are put together along a long operation, whatever
comes of it, so it is enough to know them for operations on one place (`Disk.frame_writeText` and the
others).
-/

namespace AppBundle

namespace Disk

variable {K L : Place → Item → Prop} {d d' e : Disk} {p q : Place}

/-- What `K` holds of stays, and what `L` holds of stood there. -/
structure Frame (K L : Place → Item → Prop) (d d' : Disk) : Prop where
  /-- From the earlier disk to the later one. -/
  stays : ∀ {q i}, K q i → d.get? q = some i → d'.get? q = some i
  /-- From the later disk to the earlier one. -/
  stood : ∀ {q i}, L q i → d'.get? q = some i → d.get? q = some i

theorem Frame.refl (d : Disk) : Frame K L d d := ⟨fun _ h => h, fun _ h => h⟩

theorem Frame.trans (h : Frame K L d e) (h' : Frame K L e d') : Frame K L d d' where
  stays hK hq := h'.stays hK (h.stays hK hq)
  stood hL hq := h.stood hL (h'.stood hL hq)

instance : IsPreorder Disk (Frame K L) where
  refl := .refl
  trans _ _ _ := .trans

/-- What both sets hold of is the same. -/
theorem Frame.iff (h : Frame K L d d') {i : Item} (hK : K q i) (hL : L q i) :
    d'.get? q = some i ↔ d.get? q = some i :=
  ⟨h.stood hL, h.stays hK⟩

/-! ## Files -/

/-- The bytes of the file at a place, if one stands there. -/
def fileAt (d : Disk) (q : Place) : Option (List UInt8) :=
  match d.get? q with
  | some (.file bytes) => some bytes
  | _ => none

theorem fileAt_eq_some {bytes : List UInt8} :
    d.fileAt q = some bytes ↔ d.get? q = some (.file bytes) := by
  unfold fileAt
  rcases d.get? q with _ | (_ | _) <;> simp

/-- The files at some places. -/
def FilesAt (P : Place → Prop) (q : Place) (i : Item) : Prop :=
  P q ∧ ∃ bytes, i = .file bytes

theorem not_filesAt {P : Place → Prop} (h : ¬ P q) (i : Item) : ¬ FilesAt P q i := fun hi => h hi.1

theorem not_filesAt_folder {P : Place → Prop} : ¬ FilesAt P q .folder := by
  rintro ⟨-, bytes, hbytes⟩
  exact absurd hbytes (by simp)

/-- Files are the same in a frame that holds them. -/
theorem Frame.fileAt {P : Place → Prop} (h : Frame (FilesAt P) (FilesAt P) d d') (hq : P q) :
    d'.fileAt q = d.fileAt q := by
  refine Option.ext fun bytes => ?_
  have hfile : FilesAt P q (.file bytes) := ⟨hq, bytes, rfl⟩
  rw [fileAt_eq_some, fileAt_eq_some]
  exact h.iff hfile hfile

/-- Making folders leaves all files as they are. -/
theorem FoundsAt.frame {P Q : Place → Prop} (h : FoundsAt Q d d') :
    Frame (FilesAt P) (FilesAt P) d d' where
  stays _ hq := h.stays hq
  stood {q i} hi hq := by
    rcases h q with hsame | ⟨-, -, hfolder⟩
    · rw [← hsame, hq]
    · obtain ⟨-, bytes, rfl⟩ := hi
      rw [hfolder] at hq
      exact absurd hq (by simp)

/-! ## Single places -/

theorem frame_put {i : Item} (hK : ∀ j, d.get? p = some j → ¬ K p j) (hL : ¬ L p i) :
    Frame K L d (d.put p i) where
  stays {q j} hj hq := by
    rcases eq_or_ne q [] with rfl | hne
    · exact hq
    · rw [get?_put d i hne, if_neg, hq]
      rintro rfl
      exact hK j hq hj
  stood {q j} hj hq := by
    rcases eq_or_ne q [] with rfl | hne
    · exact hq
    · rw [get?_put d i hne] at hq
      split at hq
      · next heq =>
        obtain rfl := Option.some.inj hq
        exact absurd (heq ▸ hj) hL
      · exact hq

theorem frame_drop (hK : ∀ j, d.get? p = some j → ¬ K p j) : Frame K L d (d.drop p) where
  stays {q j} hj hq := by
    rcases eq_or_ne q [] with rfl | hne
    · exact hq
    · rw [get?_drop d hne, if_neg, hq]
      rintro rfl
      exact hK j hq hj
  stood {q j} _ hq := by
    rcases eq_or_ne q [] with rfl | hne
    · exact hq
    · rw [get?_drop d hne] at hq
      split at hq
      · exact absurd hq (by simp)
      · exact hq

theorem frame_dropTree (hK : ∀ q j, p <+: q → ¬ K q j) : Frame K L d (d.dropTree p) where
  stays {q j} hj hq := by
    rcases eq_or_ne q [] with rfl | hne
    · exact hq
    · rw [get?_dropTree d hne, if_neg, hq]
      intro hprefix
      exact hK q j (List.isPrefixOf_iff_prefix.mp hprefix) hj
  stood {q j} _ hq := by
    rcases eq_or_ne q [] with rfl | hne
    · exact hq
    · rw [get?_dropTree d hne] at hq
      split at hq
      · exact absurd hq (by simp)
      · exact hq

/-- Nothing is left of a folder that is taken away. -/
theorem get?_dropTree_of_prefix (d : Disk) (hp : p ≠ []) (h : p <+: q) :
    (d.dropTree p).get? q = none := by
  have hq : q ≠ [] := by
    rintro rfl
    exact hp (List.prefix_nil.mp h)
  rw [get?_dropTree d hq, if_pos (List.isPrefixOf_iff_prefix.mpr h)]

/-- Where no folder stands, only a file may be lost. -/
theorem not_item_of_file (hget : d.get? p ≠ some .folder) (hK : ∀ bytes, ¬ K p (.file bytes)) :
    ∀ i, d.get? p = some i → ¬ K p i := by
  intro i hi
  cases i with
  | file bytes => exact hK bytes
  | folder => exact absurd hi hget

/-! ## Operations -/

theorem frame_makeFolder {p : Path} (hL : ¬ L (p.target []) .folder) :
    Leads (Frame K L) (makeFolder p) := by
  intro d
  rcases makeFolder_cases d p with hno | ⟨hplace, hget⟩
  · exact hno.leads
  · rw [run_makeFolder hplace hget]
    rw [Path.target_unclosed] at hget ⊢
    exact frame_put (by simp [hget]) hL

theorem frame_writeText {p : Path} (s : String) (hK : ∀ bytes, ¬ K (p.target []) (.file bytes))
    (hL : ∀ bytes, ¬ L (p.target []) (.file bytes)) : Leads (Frame K L) (writeText p s) := by
  intro d
  rcases write_cases d p (Text.encode s.toList) with hno | ⟨hlast, hplace, hget⟩
  · exact hno.leads
  · rw [writeText, run_write hlast hplace hget]
    exact frame_put (not_item_of_file hget hK) (hL _)

end Disk

end AppBundle
