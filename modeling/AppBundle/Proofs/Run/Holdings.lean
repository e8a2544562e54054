import AppBundle.Proofs.Cache.Spared
import AppBundle.Proofs.Disk.Way
import AppBundle.Proofs.Run.Execute

/-!
# Scratch folders that are held

Of the folders with the mark of scratch folders (`World.Marked`), those that runs made are *held*
until they are let go of. What holds of them is said by one invariant (`Held`): they are what there
is of such folders besides those that were there before, no two are the same, and the files that
were written into them stand there. A scratch folder that is made is held from then on
(`Held.make`), work within one folder leaves all others alone (`Held.within`), and a folder that
is let go of is gone (`Held.drop`).

That it is gone is not clear by itself: its path has to lead there still. It does, since the folders
on the way to all scratch folders are never taken away: a folder that was made anew was not on the
way to itself.
-/

namespace AppBundle

open Disk

/-! ## The mark -/

/-- The place is one for a folder with the mark of scratch folders. -/
def World.Marked (root : Path) (q : Place) : Prop :=
  ∃ name : String, World.scratchMark.toList <+: name.toList ∧ q = root.target [] ++ [name]

section Marked

variable {root : Path} {S q m : Place} {i : Item}

theorem World.scratchMark_prefix (n : Nat) :
    World.scratchMark.toList <+: (World.scratchName n).toList := by
  rw [scratchName, String.toList_append]
  exact List.prefix_append _ _

theorem World.target_scratch (root : Path) (n : Nat) :
    (root.child (scratchName n)).target [] = root.target [] ++ [scratchName n] :=
  Path.target_child [] root (isName_scratchName n)

theorem World.marked_scratch (root : Path) (n : Nat) :
    World.Marked root ((root.child (World.scratchName n)).target []) :=
  ⟨_, scratchMark_prefix n, target_scratch root n⟩

theorem World.Marked.ne_nil (h : World.Marked root q) : q ≠ [] := by
  obtain ⟨name, -, rfl⟩ := h
  simp

theorem World.Marked.length (h : World.Marked root q) : q.length = (root.target []).length + 1 := by
  obtain ⟨name, -, rfl⟩ := h
  simp

/-- Marked places lie beside each other. -/
theorem World.Marked.eq_of_prefix (hm : World.Marked root m) (hS : World.Marked root S)
    (h : m <+: q) (h' : S <+: q) : m = S := by
  have hlength : m.length = S.length := by rw [hm.length, hS.length]
  exact (List.prefix_of_prefix_length_le h h' hlength.le).eq_of_length hlength

/-! ## What work in a folder leaves alone -/

/-- The folders on the way to scratch folders, these folders, and all that lies in others than one
of them. -/
def Around (root : Path) (S q : Place) (i : Item) : Prop :=
  (i = .folder ∧ (q ∈ root.way [] ∨ World.Marked root q)) ∨
    ∃ m, World.Marked root m ∧ m ≠ S ∧ InFolder m q

/-- Folders with the mark. -/
def MarkedFolder (root : Path) (q : Place) (i : Item) : Prop :=
  World.Marked root q ∧ i = .folder

theorem not_inFolder_of_marked (hS : World.Marked root S) (hq : World.Marked root q) :
    ¬ InFolder S q := by
  rintro ⟨hbelow, hne⟩
  exact hne (hS.eq_of_prefix hq hbelow List.prefix_rfl).symm

theorem not_way_of_prefix (hway : S ∉ root.way []) (h : S <+: q) : q ∉ root.way [] :=
  fun hq => hway (Path.mem_way_of_prefix hq h)

theorem beyond_around (hS : World.Marked root S) (hway : S ∉ root.way []) :
    Beyond (Around root S) S := by
  rintro q i hin (⟨-, hmem | hmarked⟩ | ⟨m, hm, hne, hin'⟩)
  · exact not_way_of_prefix hway hin.1 hmem
  · exact not_inFolder_of_marked hS hmarked hin
  · exact hne (hm.eq_of_prefix hS hin'.1 hin.1)

theorem beyond_markedFolder (hS : World.Marked root S) : Beyond (MarkedFolder root) S :=
  fun _ _ hin h => not_inFolder_of_marked hS h.1 hin

end Marked

/-! ## Files that stay -/

namespace Disk

variable {d d' : Disk} {p : Path} {s : String}

/-- A file stands at the place. -/
def HasFile (d : Disk) (q : Place) : Prop :=
  ∃ bytes, d.get? q = some (.file bytes)

/-- Where files stood, files stand. -/
def KeepsFiles (d d' : Disk) : Prop :=
  ∀ q, d.HasFile q → d'.HasFile q

instance : IsPreorder Disk KeepsFiles where
  refl _ _ h := h
  trans _ _ _ h h' q hq := h' q (h q hq)

theorem keepsFiles_put_file (d : Disk) (q : Place) (bytes : List UInt8) :
    KeepsFiles d (d.put q (.file bytes)) := by
  rintro r ⟨old, hold⟩
  have hne := ne_nil_of_file hold
  rw [HasFile, get?_put d _ hne]
  split
  · exact ⟨bytes, rfl⟩
  · exact ⟨old, hold⟩

theorem keepsFiles_writeText (p : Path) (s : String) : Leads KeepsFiles (writeText p s) := by
  intro d
  rcases write_cases d p (Text.encode s.toList) with hno | ⟨hlast, hplace, hget⟩
  · exact hno.leads
  · rw [writeText, run_write hlast hplace hget]
    exact keepsFiles_put_file _ _ _

theorem hasFile_of_writeText (h : d.run (writeText p s) = (.ok (), d')) :
    d'.HasFile (p.target []) := by
  obtain ⟨-, -, hget, rfl⟩ := run_writeText_eq_ok.mp h
  exact ⟨_, get?_put_self d _ (ne_nil_of_get? hget)⟩

/-- Files that were written are there. -/
theorem hasFile_of_writes {α : Type} {path : α → Path} {text : α → String} {xs : List α}
    (h : d.run (xs.forM fun x => writeText (path x) (text x)) = (.ok (), d')) :
    ∀ x ∈ xs, d'.HasFile ((path x).target []) := by
  induction xs generalizing d with
  | nil => simp
  | cons x xs ih =>
    obtain ⟨⟨⟩, e, hfirst, hrest⟩ := run_bind_eq_ok.mp h
    have hstays : Leads KeepsFiles (xs.forM fun x => writeText (path x) (text x)) :=
      .forM fun y _ => keepsFiles_writeText (path y) (text y)
    refine List.forall_mem_cons.mpr ⟨?_, ih hrest⟩
    exact hstays.of_run hrest _ (hasFile_of_writeText hfirst)

end Disk

/-! ## Holding folders -/

/-- A scratch folder that is held, with files that stand in it. -/
structure Holding where
  /-- The path of the folder. -/
  folder : Path
  /-- The names of the files. -/
  files : List String

/-- The place of the folder. -/
def Holding.place (x : Holding) : Place := x.folder.target []

/-- Of the marked folders on the disk, these are held, and the others were on the disk before. -/
structure Held (root : Path) (before : Disk) (xs : List Holding) (d : Disk) : Prop where
  /-- What is held are scratch folders whose names and paths are not too long. -/
  scratch : ∀ x ∈ xs, ∃ n, x.folder = root.child (World.scratchName n) ∧
    (World.scratchName n).utf8ByteSize ≤ Path.nameLimit ∧
    x.folder.text.utf8ByteSize < Path.limit
  /-- They were not there before, nor on the way to any of them. -/
  fresh : ∀ x ∈ xs, before.get? x.place ≠ some .folder ∧ x.place ∉ root.way []
  /-- No two of them are the same. -/
  distinct : (xs.map Holding.place).Nodup
  /-- They are what there is besides the ones that were there before. -/
  marked : ∀ q, World.Marked root q →
    (d.get? q = some .folder ↔ before.get? q = some .folder ∨ q ∈ xs.map Holding.place)
  /-- The way to all of them is there. -/
  reaches : xs ≠ [] → d.Reaches root
  /-- Their files are there. -/
  files : ∀ x ∈ xs, ∀ f ∈ x.files, d.HasFile (x.place ++ [f])

namespace Held

variable {root : Path} {before d d' : Disk} {xs ys : List Holding} {x : Holding}

theorem nil (root : Path) (d : Disk) : Held root d [] d where
  scratch _ hx := absurd hx List.not_mem_nil
  fresh _ hx := absurd hx List.not_mem_nil
  distinct := List.nodup_nil
  marked q _ := by simp
  reaches h := absurd rfl h
  files _ hx := absurd hx List.not_mem_nil

theorem perm (h : Held root before xs d) (hperm : xs.Perm ys) : Held root before ys d where
  scratch x hx := h.scratch x (hperm.mem_iff.mpr hx)
  fresh x hx := h.fresh x (hperm.mem_iff.mpr hx)
  distinct := (hperm.map _).nodup_iff.mp h.distinct
  marked q hq := by rw [h.marked q hq, (hperm.map _).mem_iff]
  reaches hne := h.reaches fun hnil => hne (by rw [hnil] at hperm; exact hperm.symm.eq_nil)
  files x hx := h.files x (hperm.mem_iff.mpr hx)

theorem marked_place (h : Held root before xs d) (hx : x ∈ xs) : World.Marked root x.place := by
  obtain ⟨n, hn, -⟩ := h.scratch x hx
  rw [Holding.place, hn]
  exact World.marked_scratch root n

/-- The path of a folder that is held leads there. -/
theorem place (h : Held root before xs d) (hx : x ∈ xs) : d.place x.folder = .ok x.place := by
  obtain ⟨n, hn, hshort, hlimit⟩ := h.scratch x hx
  have hreaches := h.reaches (List.ne_nil_of_mem hx)
  rw [Holding.place, hn] at *
  exact (place_child_eq_ok (World.isName_scratchName n)).mpr
    ⟨hreaches, hshort, hlimit, World.target_scratch root n⟩

/-- What is held stays held when the disk changes around the folders only. -/
theorem frame {S : Place} (h : Held root before xs d)
    (hframe : Frame (Around root S) (MarkedFolder root) d d')
    (hfiles : ∀ x ∈ xs, x.place = S → ∀ f ∈ x.files, d'.HasFile (x.place ++ [f])) :
    Held root before xs d' where
  scratch := h.scratch
  fresh := h.fresh
  distinct := h.distinct
  marked q hq := by
    rw [hframe.iff (.inl ⟨rfl, .inr hq⟩) ⟨hq, rfl⟩]
    exact h.marked q hq
  reaches hne := (h.reaches hne).of_way fun r hr => hframe.stays (.inl ⟨rfl, .inl hr⟩)
  files x hx f hf := by
    by_cases hS : x.place = S
    · exact hfiles x hx hS f hf
    · obtain ⟨bytes, hbytes⟩ := h.files x hx f hf
      have haround : Around root S (x.place ++ [f]) (.file bytes) :=
        .inr ⟨x.place, h.marked_place hx, hS, inFolder_concat _ _⟩
      exact ⟨bytes, hframe.stays haround hbytes⟩

/-- What is held stays held when the disk changes beside the folders only. -/
theorem beside (h : Held root before xs d)
    (hframe : Frame (Around root []) (MarkedFolder root) d d') : Held root before xs d' :=
  h.frame hframe fun _ hx hnil => absurd hnil (h.marked_place hx).ne_nil

/-- What is held stays held when work is done in one of the folders. -/
theorem within {folder : Path} {files files' : List String}
    (h : Held root before (⟨folder, files⟩ :: xs) d)
    (hframe : Frame (Around root (folder.target [])) (MarkedFolder root) d d')
    (hfiles : ∀ f ∈ files', d'.HasFile (folder.target [] ++ [f])) :
    Held root before (⟨folder, files'⟩ :: xs) d' := by
  have hdistinct := List.nodup_cons.mp h.distinct
  have hforgotten : Held root before (⟨folder, []⟩ :: xs) d' := by
    refine frame (S := folder.target []) ⟨?_, ?_, h.distinct, h.marked, fun _ => h.reaches (by simp), ?_⟩
      hframe fun x hx hS f hf => ?_
    · exact List.forall_mem_cons.mpr (List.forall_mem_cons.mp h.scratch)
    · exact List.forall_mem_cons.mpr (List.forall_mem_cons.mp h.fresh)
    · exact List.forall_mem_cons.mpr ⟨by simp, (List.forall_mem_cons.mp h.files).2⟩
    · rcases List.mem_cons.mp hx with rfl | hx
      · exact absurd hf List.not_mem_nil
      · exact absurd (List.mem_map.mpr ⟨x, hx, hS⟩) hdistinct.1
  exact {
    scratch := List.forall_mem_cons.mpr (List.forall_mem_cons.mp h.scratch)
    fresh := List.forall_mem_cons.mpr (List.forall_mem_cons.mp h.fresh)
    distinct := h.distinct
    marked := hforgotten.marked
    reaches := fun _ => hforgotten.reaches (by simp)
    files := List.forall_mem_cons.mpr ⟨hfiles, (List.forall_mem_cons.mp hforgotten.files).2⟩ }

theorem beyond_around (h : Held root before xs d) (hx : x ∈ xs) :
    Beyond (Around root x.place) x.place :=
  AppBundle.beyond_around (h.marked_place hx) (h.fresh x hx).2

theorem beyond_markedFolder (h : Held root before xs d) (hx : x ∈ xs) :
    Beyond (MarkedFolder root) x.place :=
  AppBundle.beyond_markedFolder (h.marked_place hx)

/-- A scratch folder that is made is held. -/
theorem make {n : Nat} (h : Held root before xs d)
    (hmake : d.run (makeFolder (root.child (World.scratchName n))) = (.ok (), d')) :
    Held root before (⟨root.child (World.scratchName n), []⟩ :: xs) d' := by
  have hname := World.isName_scratchName n
  have hmarked := World.marked_scratch root n
  obtain ⟨hplace, hget, rfl⟩ := run_makeFolder_eq_ok.mp hmake
  rw [Path.unclosed_child root hname] at hplace hget ⊢
  generalize hfolder : root.child (World.scratchName n) = folder at *
  have hplaced := hplace
  rw [← hfolder] at hplaced
  obtain ⟨hreaches, hshort, hlimit, -⟩ := (place_child_eq_ok hname).mp hplaced
  -- nothing stood there, so it is neither on its own way nor one of the folders known before
  have hway : folder.target [] ∉ root.way [] := fun hmem => by
    have hstood := hreaches.folder _ hmem
    rw [hget] at hstood
    exact absurd hstood (by simp)
  have hnew : ¬ (before.get? (folder.target []) = some .folder ∨
      folder.target [] ∈ xs.map Holding.place) := by
    rw [← h.marked _ hmarked, hget]
    simp
  have hframe : Frame (fun _ _ => True) (fun q _ => q ≠ folder.target []) d
      (d.put (folder.target []) .folder) := frame_put (by simp [hget]) (by simp)
  refine {
    scratch := List.forall_mem_cons.mpr ⟨⟨n, hfolder.symm, hshort, hfolder ▸ hlimit⟩, h.scratch⟩
    fresh := List.forall_mem_cons.mpr ⟨⟨fun hstood => hnew (.inl hstood), hway⟩, h.fresh⟩
    distinct := List.nodup_cons.mpr ⟨fun hmem => hnew (.inr hmem), h.distinct⟩
    marked := fun q hq => ?_
    reaches := fun _ => hreaches.of_way fun r _ => hframe.stays trivial
    files := List.forall_mem_cons.mpr ⟨by simp, fun x hx f hf => ?_⟩ }
  · by_cases hsame : q = folder.target []
    · rw [hsame, get?_put_self _ _ hmarked.ne_nil]
      simp [Holding.place]
    · rw [hframe.iff trivial hsame, h.marked q hq]
      simp [Holding.place, hsame]
  · obtain ⟨bytes, hbytes⟩ := h.files x hx f hf
    exact ⟨bytes, hframe.stays trivial hbytes⟩

/-- A folder that is let go of is gone, and the others are still held. -/
theorem drop (h : Held root before (x :: xs) d) : Held root before xs (d.dropTree x.place) := by
  have hx : x ∈ x :: xs := List.mem_cons_self
  have hmarked := h.marked_place hx
  have hbeyond := h.beyond_around hx
  obtain ⟨hfresh, hway⟩ := h.fresh x hx
  obtain ⟨hother, hdistinct⟩ := List.nodup_cons.mp h.distinct
  have hframe : Frame (fun q i => Around root x.place q i ∧ q ≠ x.place) (fun _ _ => True) d
      (d.dropTree x.place) :=
    frame_dropTree fun q i hq ⟨haround, hne⟩ => hbeyond q i ⟨hq, hne⟩ haround
  have hmem : ∀ y ∈ xs, y ∈ x :: xs := fun y hy => List.mem_cons_of_mem x hy
  refine {
    scratch := fun y hy => h.scratch y (hmem y hy)
    fresh := fun y hy => h.fresh y (hmem y hy)
    distinct := hdistinct
    marked := fun q hq => ?_
    reaches := fun _ => (h.reaches (by simp)).of_way fun r hr =>
      hframe.stays ⟨.inl ⟨rfl, .inl hr⟩, fun heq => hway (heq ▸ hr)⟩
    files := fun y hy f hf => ?_ }
  · -- of the marked folders, only the one that is let go of goes
    by_cases hsame : q = x.place
    · rw [hsame, get?_dropTree_of_prefix d hmarked.ne_nil List.prefix_rfl]
      simp only [hfresh, hother, or_self, iff_false]
      simp
    · rw [hframe.iff ⟨.inl ⟨rfl, .inr hq⟩, hsame⟩ trivial, h.marked q hq, List.map_cons,
        List.mem_cons, or_iff_right hsame]
  · -- the file of another folder does not lie in the one that goes
    obtain ⟨bytes, hbytes⟩ := h.files y (hmem y hy) f hf
    have hne : y.place ≠ x.place := fun heq => hother (List.mem_map.mpr ⟨y, hy, heq⟩)
    have hplace := h.marked_place (hmem y hy)
    have hin := inFolder_concat y.place f
    refine ⟨bytes, hframe.stays ⟨.inr ⟨y.place, hplace, hne, hin⟩, fun heq => hne ?_⟩ hbytes⟩
    exact hplace.eq_of_prefix hmarked hin.1 (heq ▸ List.prefix_rfl)

/-- Work in a folder that takes no files away may add some. -/
theorem work {α : Type} {op : OnDisk α} {r : Except DiskFault α} {folder : Path}
    {files : List String} (h : Held root before (⟨folder, files⟩ :: xs) d) (new : List String)
    (hframe : Leads (Frame (Around root (folder.target [])) (MarkedFolder root)) op)
    (hkeeps : Leads KeepsFiles op) (hrun : d.run op = (r, d'))
    (hnew : ∀ f ∈ new, d'.HasFile (folder.target [] ++ [f])) :
    Held root before (⟨folder, new ++ files⟩ :: xs) d' := by
  refine h.within (hframe.of_run hrun) fun f hf => ?_
  rcases List.mem_append.mp hf with hf | hf
  · exact hnew f hf
  · exact hkeeps.of_run hrun _ (h.files _ List.mem_cons_self f hf)

theorem without {w : World} (h : Held root before (x :: xs) w.disk) :
    Held root before xs (w.without x.folder).disk := by
  rw [World.without_of_place (h.place List.mem_cons_self)]
  exact h.drop

end Held

end AppBundle
