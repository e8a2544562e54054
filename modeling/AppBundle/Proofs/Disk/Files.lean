import AppBundle.Proofs.Disk.Operations

/-!
# The files that operations add

Which files may stand on a disk after an operation that did not stand there before: `Writes N op`
says that they are all among `N`. This is kept by putting operations together, so it says at once
what long operations leave alone, also those that fail on the way.
-/

namespace AppBundle

namespace Disk

variable {α β : Type} {N M : Place → List UInt8 → Prop} {d d' e : Disk} {p : Place}

/-- Every file of the later disk stood there before or is one of `N`. -/
def Adds (N : Place → List UInt8 → Prop) (d d' : Disk) : Prop :=
  ∀ p bytes, d'.get? p = some (.file bytes) → d.get? p = some (.file bytes) ∨ N p bytes

theorem Adds.refl (d : Disk) : Adds N d d := fun _ _ h => .inl h

theorem Adds.trans (h : Adds N d e) (h' : Adds N e d') : Adds N d d' := by
  intro p bytes hget
  rcases h' p bytes hget with hget | hN
  · exact h p bytes hget
  · exact .inr hN

instance : IsPreorder Disk (Adds N) where
  refl := .refl
  trans _ _ _ := .trans

theorem Adds.mono (h : Adds N d d') (hNM : ∀ p bytes, N p bytes → M p bytes) : Adds M d d' :=
  fun p bytes hget => (h p bytes hget).imp_right (hNM p bytes)

theorem adds_put {i : Item} (hi : ∀ bytes, i = .file bytes → N p bytes) : Adds N d (d.put p i) := by
  intro q bytes hget
  rw [get?_put d i (ne_nil_of_file hget)] at hget
  split at hget
  · next heq =>
    rw [heq]
    exact .inr (hi bytes (Option.some.inj hget))
  · exact .inl hget

theorem adds_drop (d : Disk) (p : Place) : Adds N d (d.drop p) := by
  intro q bytes hget
  rw [get?_drop d (ne_nil_of_file hget)] at hget
  split at hget
  · exact absurd hget (by simp)
  · exact .inl hget

theorem adds_dropTree (d : Disk) (p : Place) : Adds N d (d.dropTree p) := by
  intro q bytes hget
  rw [get?_dropTree d (ne_nil_of_file hget)] at hget
  split at hget
  · exact absurd hget (by simp)
  · exact .inl hget

/-! ## Operations -/

/-- All files that the operation adds are among `N`. -/
def Writes (N : Place → List UInt8 → Prop) (op : OnDisk α) : Prop :=
  ∀ d, Adds N d (d.run op).2

theorem Writes.pure (a : α) : Writes N (pure a) := Leads.pure a

theorem Writes.throw (f : DiskFault) : Writes N (throw f : OnDisk α) := Leads.throw f

theorem Writes.bind {x : OnDisk α} {f : α → OnDisk β} (hx : Writes N x)
    (hf : ∀ a, Writes N (f a)) : Writes N (x >>= f) := Leads.bind hx hf

theorem Writes.caught {op : OnDisk α} (h : Writes N op) : Writes N (caught op) := Leads.caught h

theorem Writes.forM {as : List α} {f : α → OnDisk Unit} (h : ∀ a ∈ as, Writes N (f a)) :
    Writes N (as.forM f) := Leads.forM h

theorem Refuses.adds {op : OnDisk α} (h : d.Refuses op) : Adds N d (d.run op).2 := h.leads

theorem writes_list (p : Path) : Writes N (list p) := by
  intro d
  unfold list
  rcases locate_bind_cases d p _ with h | ⟨-, h⟩
  · exact h.adds
  · rw [h, run_get_bind]
    rcases d.get? (p.target []) with _ | (_ | _) <;> exact .refl d

theorem writes_writeText {p : Path} {s : String} (h : N (p.target []) (Text.encode s.toList)) :
    Writes N (writeText p s) := by
  intro d
  rcases write_cases d p (Text.encode s.toList) with hno | ⟨hlast, hplace, hget⟩
  · exact hno.adds
  · rw [writeText, run_write hlast hplace hget]
    exact adds_put fun bytes hbytes => Item.file.inj hbytes ▸ h

theorem writes_remove (p : Path) : Writes N (remove p) := by
  intro d
  rcases remove_cases d p with h | ⟨_, -, h⟩
  · exact h.adds
  · rw [h]
    exact adds_drop d _

theorem writes_makeFolder (p : Path) : Writes N (makeFolder p) := by
  intro d
  rcases makeFolder_cases d p with h | ⟨hplace, hget⟩
  · exact h.adds
  · rw [run_makeFolder hplace hget]
    exact adds_put (by simp)

theorem writes_makeFolders (p : Path) : Writes N (makeFolders p) :=
  leads_makeFolders (writes_makeFolder p) fun q _ => writes_makeFolder q

end Disk

end AppBundle
