import AppBundle.Proofs.Disk.Way

/-!
# Operations that break off

A disk may be full or out of order, which nothing that stands on it tells. An operation then *breaks
off*: it fails, and what it has done up to then stays. `Disk.Steps` are the operations of a file
system of which each may break off at any time. What they leave is bounded by what they do: some of
the folders on the way of a path, or the first part of a file.
-/

namespace AppBundle

open AppBundle.Text

namespace Disk

variable {α : Type} {left : Disk → Disk → Prop} {op op' : OnDisk α}

/-- Whenever the second operation is run, it does what the first one does, or it fails and leaves
the disk in some way. -/
def MayBreak (left : Disk → Disk → Prop) (op op' : OnDisk α) : Prop :=
  ∀ d, d.run op' = d.run op ∨ ∃ f d', d.run op' = (.error f, d') ∧ left d d'

theorem MayBreak.refl (op : OnDisk α) : MayBreak left op op := fun _ => .inl rfl

/-- If the disks that an operation leads to are related, and those at which it breaks off are, it
leads to related disks in any case. -/
theorem MayBreak.leads (h : MayBreak left op op') (hop : Leads left op) : Leads left op' := by
  intro d
  rcases h d with hsame | ⟨f, d', hrun, hleft⟩
  · rw [hsame]
    exact hop d
  · rw [hrun]
    exact hleft

/-- An operation that leaves nothing behind fails, or does what the other one does. -/
theorem MayBreak.refuses_or (h : MayBreak Eq op op') (d : Disk) :
    d.Refuses op' ∨ d.run op' = d.run op := by
  rcases h d with hsame | ⟨f, d', hrun, rfl⟩
  · exact .inr hsame
  · exact .inl ⟨f, hrun⟩

/-- What is left of a file that was to be written: nothing is done yet, or a first part of the bytes
is in the file. -/
inductive LeavesPart (p : Path) (bytes : List UInt8) (d : Disk) : Disk → Prop
  | untouched : LeavesPart p bytes d d
  | part (written : List UInt8) (hpart : written <+: bytes) (hplace : d.place p = .ok (p.target []))
      (hfree : d.get? (p.target []) ≠ some .folder) :
      LeavesPart p bytes d (d.put (p.target []) (.file written))

/-- Operations that do what they do on a disk, or break off. -/
structure Steps where
  makeFolders : Path → OnDisk Unit
  writeText : Path → String → OnDisk Unit
  rename : Path → Path → OnDisk Unit
  remove : Path → OnDisk Unit
  /-- Some of the folders are made already. -/
  breaks_makeFolders (p : Path) :
    MayBreak (FoundsAt (· ∈ Path.way [] p)) (Disk.makeFolders p) (makeFolders p)
  /-- A part of the text is written already. -/
  breaks_writeText (p : Path) (s : String) :
    MayBreak (LeavesPart p (encode s.toList)) (Disk.writeText p s) (writeText p s)
  /-- A file is moved at once, -/
  breaks_rename (source target : Path) :
    MayBreak Eq (Disk.rename source target) (rename source target)
  /-- and taken away at once. -/
  breaks_remove (p : Path) : MayBreak Eq (Disk.remove p) (remove p)

namespace Steps

/-- No operation breaks off. -/
def plain : Steps where
  makeFolders := Disk.makeFolders
  writeText := Disk.writeText
  rename := Disk.rename
  remove := Disk.remove
  breaks_makeFolders _ := .refl _
  breaks_writeText _ _ := .refl _
  breaks_rename _ _ := .refl _
  breaks_remove _ := .refl _

/-- Files can be written but neither moved nor taken away. -/
def stuck : Steps where
  makeFolders := Disk.makeFolders
  writeText := Disk.writeText
  rename _ _ := throw .exists
  remove _ := throw .exists
  breaks_makeFolders _ := .refl _
  breaks_writeText _ _ := .refl _
  breaks_rename _ _ d := .inr ⟨.exists, d, rfl, rfl⟩
  breaks_remove _ d := .inr ⟨.exists, d, rfl, rfl⟩

variable (S : Steps)

/-- Folders are made on the way of a path only, however many of them. -/
theorem leads_makeFolders (p : Path) :
    Leads (FoundsAt (· ∈ Path.way [] p)) (S.makeFolders p) :=
  (S.breaks_makeFolders p).leads (foundsAt_makeFolders p)

/-- A file is written as a whole, or a part of it is left, or nothing. -/
theorem writeText_cases (d : Disk) (p : Path) (s : String) :
    (∃ f d', d.run (S.writeText p s) = (.error f, d') ∧ LeavesPart p (encode s.toList) d d') ∨
      d.place p = .ok (p.target []) ∧ d.get? (p.target []) ≠ some .folder ∧
        d.run (S.writeText p s) = (.ok (), d.put (p.target []) (.file (encode s.toList))) := by
  rcases S.breaks_writeText p s d with hsame | hbroken
  · rw [hsame, Disk.writeText]
    rcases write_cases d p (encode s.toList) with ⟨f, hno⟩ | ⟨hlast, hplace, hfree⟩
    · exact .inl ⟨f, d, hno, .untouched⟩
    · exact .inr ⟨hplace, hfree, run_write hlast hplace hfree _⟩
  · exact .inl hbroken

/-- A file is moved as a whole or not at all. -/
theorem rename_cases (d : Disk) (source target : Path) :
    d.Refuses (S.rename source target) ∨
      ∃ bytes, d.get? (source.target []) = some (.file bytes) ∧
        d.place target = .ok (target.target []) ∧ d.get? (target.target []) ≠ some .folder ∧
        d.run (S.rename source target) =
          (.ok (), (d.drop (source.target [])).put (target.target []) (.file bytes)) := by
  rcases (S.breaks_rename source target).refuses_or d with hno | hsame
  · exact .inl hno
  · rw [Refuses, hsame]
    exact Disk.rename_cases d source target

/-- A file is taken away or stays. -/
theorem remove_cases (d : Disk) (p : Path) :
    d.Refuses (S.remove p) ∨
      ∃ bytes, d.get? (p.target []) = some (.file bytes) ∧
        d.run (S.remove p) = (.ok (), d.drop (p.target [])) := by
  rcases (S.breaks_remove p).refuses_or d with hno | hsame
  · exact .inl hno
  · rw [Refuses, hsame]
    exact Disk.remove_cases d p

end Steps

end Disk

end AppBundle
