import AppBundle.Proofs.Disk.Operations

/-!
# Disks that differ in one file

What can be written on a disk can also be written if a file is missing on it, or if one more stands
on it, as long as nothing but a file is put in its place.
-/

namespace AppBundle

namespace Disk

/-- The disks are alike but for one place, and no folder stands there. -/
structure AlikeBut (t : Place) (d d' : Disk) : Prop where
  same : ∀ q, q ≠ t → d.get? q = d'.get? q
  left : d.get? t ≠ some .folder
  right : d'.get? t ≠ some .folder

variable {d d' e : Disk} {t : Place}

theorem alikeBut_drop (h : d.get? t ≠ some .folder) : AlikeBut t (d.drop t) d where
  same q hq := by
    rcases eq_or_ne q [] with rfl | hne
    · rfl
    · rw [get?_drop d hne, if_neg hq]
  left := by
    rw [get?_drop d (ne_nil_of_get? h), if_pos rfl]
    simp
  right := h

theorem AlikeBut.symm (h : AlikeBut t d d') : AlikeBut t d' d :=
  ⟨fun q hq => (h.same q hq).symm, h.right, h.left⟩

theorem AlikeBut.place (h : AlikeBut t d d') {p : Path} {q : Place} (hp : d.place p = .ok q) :
    d'.place p = .ok q := by
  refine place_mono (fun r hr => ?_) hp
  rw [← h.same r (by rintro rfl; exact h.left hr), hr]

theorem AlikeBut.put (h : AlikeBut t d d') {q : Place} {i : Item} (hi : q = t → i ≠ .folder) :
    AlikeBut t (d.put q i) (d'.put q i) := by
  have ht := ne_nil_of_get? h.left
  refine ⟨fun r hr => ?_, ?_, ?_⟩
  · rcases eq_or_ne r [] with rfl | hne
    · rfl
    · rw [get?_put d i hne, get?_put d' i hne, h.same r hr]
  · rw [get?_put d i ht]
    split
    · next heq => simpa using hi heq.symm
    · exact h.left
  · rw [get?_put d' i ht]
    split
    · next heq => simpa using hi heq.symm
    · exact h.right

/-! ## Operations -/

/-- If the operation succeeds on a disk, it succeeds on all that are alike but for the place, and
leaves them alike. -/
def Ignores {α : Type} (t : Place) (op : OnDisk α) : Prop :=
  ∀ d d' e a, AlikeBut t d d' → d.run op = (.ok a, e) →
    ∃ e', d'.run op = (.ok a, e') ∧ AlikeBut t e e'

theorem Ignores.bind {α β : Type} {x : OnDisk α} {f : α → OnDisk β} (hx : Ignores t x)
    (hf : ∀ a, Ignores t (f a)) : Ignores t (x >>= f) := by
  intro d d' e b h hrun
  obtain ⟨a, d₁, hfirst, hrest⟩ := run_bind_eq_ok.mp hrun
  obtain ⟨d₁', hfirst', h₁⟩ := hx d d' d₁ a h hfirst
  obtain ⟨e', hrest', he⟩ := hf a d₁ d₁' e b h₁ hrest
  exact ⟨e', run_bind_eq_ok.mpr ⟨a, d₁', hfirst', hrest'⟩, he⟩

theorem Ignores.forM {α : Type} {as : List α} {f : α → OnDisk Unit}
    (hf : ∀ a, Ignores t (f a)) : Ignores t (as.forM f) := by
  induction as with
  | nil =>
    intro d d' e u h hrun
    obtain rfl := (Prod.mk.inj hrun).2
    exact ⟨d', rfl, h⟩
  | cons a as ih => exact (hf a).bind fun _ => ih

/-- A file may be written over the one that is missing. -/
theorem ignores_writeText (t : Place) (p : Path) (s : String) : Ignores t (writeText p s) := by
  intro d d' e u h hrun
  obtain ⟨hlast, hplace, hget, rfl⟩ := run_writeText_eq_ok.mp hrun
  have hget' : d'.get? (p.target []) ≠ some .folder := by
    rcases eq_or_ne (p.target []) t with heq | hne
    · rw [heq]
      exact h.right
    · rw [← h.same _ hne]
      exact hget
  exact ⟨_, run_write hlast (h.place hplace) hget' _, h.put fun _ => by simp⟩

theorem ignores_makeFolder {p : Path} (hp : p.unclosed.target [] ≠ t) :
    Ignores t (makeFolder p) := by
  intro d d' e u h hrun
  obtain ⟨hplace, hget, rfl⟩ := run_makeFolder_eq_ok.mp hrun
  exact ⟨_, run_makeFolder (h.place hplace) ((h.same _ hp).symm.trans hget),
    h.put fun heq => absurd heq hp⟩

end Disk

end AppBundle
