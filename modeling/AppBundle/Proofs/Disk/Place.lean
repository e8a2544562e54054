import AppBundle.Disk
import Mathlib.Tactic.Common

/-!
# Places of paths

If a path leads anywhere, it leads where its parts say, whatever stands on the disk: idle parts stay
where they are, two points go up, and names go down (`Disk.target_of_place`). What stands on the
disk only decides whether the path leads there.
-/

namespace AppBundle

namespace Path

/-- Where the parts of a path lead from a place. -/
def target (here : Place) : Path → Place
  | [] => here
  | part :: rest =>
    if isIdle part then target here rest
    else if part = ".." then target here.dropLast rest
    else target (here ++ [part]) rest

/-- Where a part leads from a place. -/
def enter (here : Place) (part : String) : Place :=
  if isIdle part then here else if part = ".." then here.dropLast else here ++ [part]

/-- A part that leads down. -/
def IsName (part : String) : Prop :=
  isIdle part = false ∧ part ≠ ".."

theorem target_cons (here : Place) (part : String) (p : Path) :
    target here (part :: p) = target (enter here part) p := by
  rw [target, enter]
  split
  · rfl
  · split <;> rfl

theorem target_append (here : Place) (p q : Path) :
    target here (p ++ q) = target (target here p) q := by
  induction p generalizing here with
  | nil => rfl
  | cons part p ih => rw [List.cons_append, target_cons, target_cons, ih]

theorem target_name (here : Place) {name : String} (hname : IsName name) :
    target here [name] = here ++ [name] := by
  simp [target, hname.1, hname.2]

theorem target_append_name (here : Place) (p : Path) {name : String} (hname : IsName name) :
    target here (p ++ [name]) = target here p ++ [name] := by
  rw [target_append, target_name _ hname]

/-- A slash at the end of a folder makes no difference. -/
theorem target_child (here : Place) (p : Path) {name : String} (hname : IsName name) :
    target here (p.child name) = target here p ++ [name] := by
  rw [child, target_append_name here _ hname]
  split
  · next hlast =>
    obtain ⟨front, rfl⟩ := List.getLast?_eq_some_iff.mp hlast
    rw [List.dropLast_concat, target_append]
    rfl
  · rfl

/-- A name that is longer than two points leads down. -/
theorem isName_of_length {name : String} (h : 2 < name.length) : IsName name := by
  have hne : ∀ s : String, s.length ≤ 2 → name ≠ s := by
    rintro s hs rfl
    omega
  refine ⟨?_, hne ".." (by decide)⟩
  simp only [isIdle, Bool.or_eq_false_iff, decide_eq_false_iff_not]
  exact ⟨hne "" (by decide), hne "." (by decide)⟩

theorem isName_append (name : String) {ending : String} (h : 2 < ending.length) :
    IsName (name ++ ending) := by
  refine isName_of_length ?_
  rw [String.length_append]
  omega

/-- Places that are the same have the same last name. -/
theorem name_inj {folder folder' : Place} {name name' : String}
    (h : folder ++ [name] = folder' ++ [name']) : name = name' :=
  List.singleton_inj.mp (List.append_inj' h rfl).2

/-- A path that ends in a name ends in no slash. -/
theorem unclosed_child (p : Path) {name : String} (hname : IsName name) :
    (p.child name).unclosed = p.child name := by
  have hne : name ≠ "" := by
    rintro rfl
    exact absurd hname.1 (by decide)
  rw [child, unclosed, List.reverse_append, List.reverse_singleton, List.singleton_append,
    List.dropWhile_cons_of_neg (by simpa using hne), List.reverse_cons, List.reverse_reverse]

end Path

namespace Disk

variable {d d' : Disk} {p q : Place} {i : Item}

/-! ## What stands where -/

/-- What is no folder does not stand at the root. -/
theorem ne_nil_of_get? (h : d.get? p ≠ some .folder) : p ≠ [] := by
  rintro rfl
  exact h rfl

theorem ne_nil_of_file {bytes : List UInt8} (h : d.get? p = some (.file bytes)) : p ≠ [] := by
  rintro rfl
  exact absurd (Option.some.inj h) (by simp)

theorem find?_filter_place (items : List (Place × Item)) (keep : Place → Bool) (q : Place) :
    (items.filter fun x => keep x.1).find? (·.1 = q) =
      if keep q then items.find? (·.1 = q) else none := by
  induction items with
  | nil => simp
  | cons x items ih =>
    by_cases hx : x.1 = q
    · by_cases hkeep : keep q = true
      · simp [hx, hkeep]
      · simp [hx, hkeep, ih]
    · by_cases hkeep : keep x.1 = true <;> simp [hx, hkeep, ih]

theorem get?_drop (d : Disk) (hq : q ≠ []) :
    (d.drop p).get? q = if q = p then none else d.get? q := by
  rw [get?, if_neg hq]
  show ((d.items.filter fun x => decide (x.1 ≠ p)).find? (·.1 = q)).map (·.2) = _
  rw [find?_filter_place d.items (fun x => decide (x ≠ p)) q]
  by_cases h : q = p
  · simp [h]
  · simp [h, get?, hq]

/-- Nothing else is taken away. -/
theorem get?_drop_of_ne (d : Disk) (hq : q ≠ p) : (d.drop p).get? q = d.get? q := by
  rcases eq_or_ne q [] with rfl | hne
  · rfl
  · rw [get?_drop d hne, if_neg hq]

theorem get?_put (d : Disk) (i : Item) (hq : q ≠ []) :
    (d.put p i).get? q = if q = p then some i else d.get? q := by
  have hput : (d.put p i).get? q = if q = p then some i else (d.drop p).get? q := by
    rw [get?, if_neg hq, put]
    by_cases h : q = p
    · simp [h]
    · have hpq : p ≠ q := Ne.symm h
      simp [h, hpq, get?, hq, drop]
  rw [hput, get?_drop d hq]
  split <;> rfl

theorem put_put (d : Disk) (p : Place) (i j : Item) : (d.put p i).put p j = d.put p j := by
  simp [put]

theorem drop_put (d : Disk) (p : Place) (i : Item) : (d.put p i).drop p = d.drop p := by
  simp [put, drop]

theorem get?_put_self (d : Disk) (i : Item) (hp : p ≠ []) : (d.put p i).get? p = some i := by
  rw [get?_put d i hp, if_pos rfl]

/-- What is put where no folder stands takes no folder away. -/
theorem folder_put (hp : d.get? p ≠ some .folder) (i : Item) (hq : d.get? q = some .folder) :
    (d.put p i).get? q = some .folder := by
  rcases eq_or_ne q [] with rfl | hne
  · rfl
  · rw [get?_put d _ hne, if_neg (by rintro rfl; exact hp hq), hq]

/-- All folders stay when anything else is taken away. -/
theorem folder_drop (hp : d.get? p ≠ some .folder) (hq : d.get? q = some .folder) :
    (d.drop p).get? q = some .folder := by
  rw [get?_drop_of_ne d (by rintro rfl; exact hp hq), hq]

/-- A file that is put on a disk makes no folder. -/
theorem folder_of_put_file {bytes : List UInt8}
    (hq : (d.put p (.file bytes)).get? q = some .folder) : d.get? q = some .folder := by
  rcases eq_or_ne q [] with rfl | hne
  · rfl
  · rw [get?_put d _ hne] at hq
    split at hq
    · exact absurd (Option.some.inj hq) (by simp)
    · exact hq

/-- No folder comes about when something is taken away. -/
theorem folder_of_drop (hq : (d.drop p).get? q = some .folder) : d.get? q = some .folder := by
  rcases eq_or_ne q [] with rfl | hne
  · rfl
  · rw [get?_drop d hne] at hq
    split at hq
    · exact absurd hq (by simp)
    · exact hq

theorem get?_dropTree (d : Disk) (hq : q ≠ []) :
    (d.dropTree p).get? q = if p.isPrefixOf q then none else d.get? q := by
  rw [get?, if_neg hq]
  show ((d.items.filter fun x => !p.isPrefixOf x.1).find? (·.1 = q)).map (·.2) = _
  rw [find?_filter_place d.items (fun x => !p.isPrefixOf x) q]
  by_cases h : p.isPrefixOf q = true
  · simp [h]
  · simp [h, get?, hq]

/-! ## Where paths lead -/

/-- Whether a part may be looked up. -/
def Enters (part : String) : Prop :=
  Path.isIdle part ∨ part = ".." ∨ part.utf8ByteSize ≤ Path.nameLimit

/-- A path leads anywhere if its first part may be looked up in a folder, and the rest leads on. -/
theorem placeFrom_cons_eq_ok {here : Place} {part : String} {p : Path} :
    d.placeFrom here (part :: p) = .ok q ↔
      d.get? here = some .folder ∧ Enters part ∧ d.placeFrom (Path.enter here part) p = .ok q := by
  rw [placeFrom, Path.enter, Enters]
  rcases d.get? here with _ | (_ | _)
  · simp
  · simp
  · dsimp only
    by_cases hidle : Path.isIdle part = true
    · simp [hidle]
    · by_cases hup : part = ".."
      · subst hup
        simp [hidle]
      · by_cases hlong : part.utf8ByteSize > Path.nameLimit
        · simp [hidle, hup, hlong, Nat.not_le.mpr hlong]
        · simp [hidle, hup, hlong, Nat.not_lt.mp hlong]

theorem target_of_placeFrom {here : Place} {p : Path} (h : d.placeFrom here p = .ok q) :
    q = Path.target here p := by
  induction p generalizing here with
  | nil => exact (Except.ok.inj h).symm
  | cons part p ih =>
    obtain ⟨-, -, hrest⟩ := placeFrom_cons_eq_ok.mp h
    rw [Path.target_cons]
    exact ih hrest

/-- A path leads where its parts say. -/
theorem target_of_place {p : Path} (h : d.place p = .ok q) : q = p.target [] := by
  rw [place] at h
  split at h
  · exact absurd h (by simp)
  · exact target_of_placeFrom h

theorem placeFrom_mono (hfolders : ∀ q, d.get? q = some .folder → d'.get? q = some .folder)
    {here : Place} {p : Path} (h : d.placeFrom here p = .ok q) : d'.placeFrom here p = .ok q := by
  induction p generalizing here with
  | nil => exact h
  | cons part p ih =>
    obtain ⟨hhere, henters, hrest⟩ := placeFrom_cons_eq_ok.mp h
    exact placeFrom_cons_eq_ok.mpr ⟨hfolders here hhere, henters, ih hrest⟩

/-- A path leads where it led as long as all folders are still there. -/
theorem place_mono (hfolders : ∀ q, d.get? q = some .folder → d'.get? q = some .folder) {p : Path}
    (h : d.place p = .ok q) : d'.place p = .ok q := by
  rw [place] at h ⊢
  split at h
  · exact absurd h (by simp)
  · next hlong => rw [if_neg hlong]; exact placeFrom_mono hfolders h

/-- A path leads where it led as long as no folder is replaced. -/
theorem place_put {p : Path} (h : d.place p = .ok q) {t : Place} (ht : d.get? t ≠ some .folder)
    (i : Item) : (d.put t i).place p = .ok q :=
  place_mono (fun _ => folder_put ht i) h

/-- A path leads where it led as long as no folder is taken away. -/
theorem place_drop {p : Path} (h : d.place p = .ok q) {t : Place} (ht : d.get? t ≠ some .folder) :
    (d.drop t).place p = .ok q :=
  place_mono (fun _ => folder_drop ht) h

end Disk

end AppBundle
