import AppBundle.Proofs.Disk.Files
import Mathlib.Data.List.Induction

/-!
# Making folders

A path *reaches* a folder if all its parts are looked up in folders and it leads to a folder itself.
Making the folders of such a path does nothing (`Disk.makeFolders_of_reaches`). Where some of them
are missing, folders are founded where nothing stood (`Disk.foundsAt_makeFolder`). As long as they
are on the way to one place, a path that only descends to another one reads the same
(`Disk.readBytes_founds`), as everything stands in a folder.
-/

namespace AppBundle

namespace Path

/-- The path goes down only, by names that are not too long. -/
def Descends (p : Path) : Prop :=
  ∀ part ∈ p, part ≠ ".." ∧ part.utf8ByteSize ≤ nameLimit
  deriving Decidable

theorem unclosed_concat_empty (p : Path) : unclosed (p ++ [""]) = p.unclosed := by
  simp [unclosed]

theorem unclosed_concat (p : Path) {part : String} (h : part ≠ "") :
    unclosed (p ++ [part]) = p ++ [part] := by
  simp [unclosed, h]

theorem target_concat_empty (here : Place) (p : Path) :
    target here (p ++ [""]) = target here p := by
  rw [target_append]
  rfl

/-- The slashes at the end of a path make no difference. -/
theorem target_unclosed (here : Place) (p : Path) : target here p.unclosed = target here p := by
  induction p using List.reverseRecOn with
  | nil => rfl
  | append_singleton p part ih =>
    by_cases h : part = ""
    · rw [h, unclosed_concat_empty, target_concat_empty, ih]
    · rw [unclosed_concat p h]

/-- A path that only descends leads where its names say. -/
theorem target_of_descends (here : Place) {p : Path} (h : p.Descends) :
    target here p = here ++ p.filter (!isIdle ·) := by
  induction p generalizing here with
  | nil => simp [target]
  | cons part p ih =>
    have hrest : Descends p := fun x hx => h x (List.mem_cons_of_mem _ hx)
    have hup : part ≠ ".." := (h part List.mem_cons_self).1
    by_cases hidle : isIdle part = true
    · simp [target, hidle, ih here hrest]
    · simp [target, hidle, hup, ih _ hrest]

theorem descends_child {folder : Path} (h : folder.Descends) {name : String} (hname : IsName name)
    (hshort : name.utf8ByteSize ≤ nameLimit) : (folder.child name).Descends := by
  intro part hpart
  rcases List.mem_append.mp hpart with hpart | hpart
  · refine h part ?_
    split at hpart
    · exact (List.dropLast_sublist folder).subset hpart
    · exact hpart
  · rw [List.mem_singleton.mp hpart]
    exact ⟨hname.2, hshort⟩

end Path

namespace Disk

variable {d d' e : Disk} {p : Path} {name : String}

/-! ## Walking -/

/-- A path is walked part by part. -/
theorem placeFrom_append (d : Disk) (here : Place) (p q : Path) :
    d.placeFrom here (p ++ q) =
      match d.placeFrom here p with
      | .ok r => d.placeFrom r q
      | .error f => .error f := by
  induction p generalizing here with
  | nil => rfl
  | cons part p ih =>
    simp only [List.cons_append, placeFrom]
    rcases d.get? here with _ | (_ | _)
    · rfl
    · rfl
    · dsimp only
      split
      · exact ih here
      · split
        · exact ih here.dropLast
        · split
          · rfl
          · exact ih (here ++ [part])

/-- A slash behind a path asks for a folder. -/
theorem placeFrom_empty (d : Disk) (here : Place) :
    d.placeFrom here [""] =
      match d.get? here with
      | none => .error .notFound
      | some (.file _) => .error .notFolder
      | some .folder => .ok here := by
  rcases hget : d.get? here with _ | (_ | _) <;> simp [placeFrom, hget, Path.isIdle]

theorem placeFrom_name (d : Disk) (here : Place) (hname : Path.IsName name) :
    d.placeFrom here [name] =
      match d.get? here with
      | none => .error .notFound
      | some (.file _) => .error .notFolder
      | some .folder =>
        if name.utf8ByteSize > Path.nameLimit then .error .tooLong else .ok (here ++ [name]) := by
  rcases hget : d.get? here with _ | (_ | _) <;> simp [placeFrom, hget, hname.1, hname.2]

/-- The path leads to a folder, however long it is. -/
def Reaches (d : Disk) (p : Path) : Prop :=
  d.placeFrom [] p = .ok (p.target []) ∧ d.get? (p.target []) = some .folder

theorem Reaches.mono (h : d.Reaches p)
    (hfolders : ∀ q, d.get? q = some .folder → d'.get? q = some .folder) : d'.Reaches p :=
  ⟨placeFrom_mono hfolders h.1, hfolders _ h.2⟩

theorem reaches_concat_empty : d.Reaches (p ++ [""]) ↔ d.Reaches p := by
  rw [Reaches, Reaches, Path.target_concat_empty, placeFrom_append]
  refine and_congr_left fun hfolder => ?_
  cases h : d.placeFrom [] p with
  | error f => simp
  | ok r =>
    obtain rfl := target_of_placeFrom h
    simp only [placeFrom_empty, hfolder]

theorem reaches_unclosed : d.Reaches p.unclosed ↔ d.Reaches p := by
  induction p using List.reverseRecOn with
  | nil => exact .rfl
  | append_singleton p part ih =>
    by_cases hpart : part = ""
    · rw [hpart, Path.unclosed_concat_empty, reaches_concat_empty, ih]
    · rw [Path.unclosed_concat p hpart]

/-- A name is put behind a path that leads to the same folder. -/
theorem exists_child (d : Disk) (p : Path) :
    ∃ base : Path, p.child = (base ++ [·]) ∧ base.target [] = p.target [] ∧
      (d.Reaches base ↔ d.Reaches p) := by
  by_cases hlast : p.getLast? = some ""
  · obtain ⟨base, rfl⟩ := List.getLast?_eq_some_iff.mp hlast
    refine ⟨base, ?_, (Path.target_concat_empty [] base).symm, reaches_concat_empty.symm⟩
    funext name
    rw [Path.child, if_pos hlast, List.dropLast_concat]
  · refine ⟨p, ?_, rfl, .rfl⟩
    funext name
    rw [Path.child, if_neg hlast]

/-- A path to a name in a folder goes through the folder. -/
theorem reaches_of_child {q : Place} (hname : Path.IsName name)
    (h : d.place (p.child name) = .ok q) : d.Reaches p := by
  obtain ⟨base, hchild, -, hreaches⟩ := d.exists_child p
  rw [← hreaches]
  rw [place, hchild] at h
  split at h
  · exact absurd h (by simp)
  · rw [placeFrom_append] at h
    cases hbase : d.placeFrom [] base with
    | error f => simp [hbase] at h
    | ok r =>
      obtain rfl := target_of_placeFrom hbase
      refine ⟨hbase, ?_⟩
      simp only [hbase, placeFrom_name _ _ hname] at h
      split at h
      · exact absurd h (by simp)
      · exact absurd h (by simp)
      · assumption

/-- A name in a folder that is reached leads on, unless the path is too long. -/
theorem Reaches.place_child (h : d.Reaches p) (hname : Path.IsName name)
    (hshort : name.utf8ByteSize ≤ Path.nameLimit) :
    d.place (p.child name) =
      if (p.child name).text.utf8ByteSize ≥ Path.limit then .error .tooLong
      else .ok (p.target [] ++ [name]) := by
  obtain ⟨base, hchild, htarget, hreaches⟩ := d.exists_child p
  have hbase : d.Reaches base := hreaches.mpr h
  have hwalk : d.placeFrom [] (base ++ [name]) = .ok (p.target [] ++ [name]) := by
    have hfolder := h.2
    rw [placeFrom_append, hbase.1]
    simp only [placeFrom_name _ _ hname, htarget, hfolder, if_neg (Nat.not_lt.mpr hshort)]
  rw [place, hchild, hwalk]

/-! ## Reading -/

/-- What can be read of a file whose path and place are the same on two disks. -/
theorem readBytes_congr (hplace : d'.place p = d.place p)
    (hget : d'.get? (p.target []) = d.get? (p.target [])) :
    (d'.run (readBytes p)).1 = (d.run (readBytes p)).1 := by
  unfold readBytes
  rw [run_bind, run_bind, run_look, run_look, hplace]
  cases h : d.place p with
  | error f => rfl
  | ok q =>
    obtain rfl := target_of_place h
    dsimp only
    rw [hget]
    rcases d.get? (p.target []) with _ | (_ | _) <;> rfl

theorem readText_congr (h : (d'.run (readBytes p)).1 = (d.run (readBytes p)).1) :
    (d'.run (readText p)).1 = (d.run (readText p)).1 := by
  unfold readText
  rw [run_bind, run_bind]
  rcases hrun : d.run (readBytes p) with ⟨r, e⟩
  rcases hrun' : d'.run (readBytes p) with ⟨r', e'⟩
  obtain rfl : r' = r := by rw [hrun, hrun'] at h; exact h
  cases r' with
  | error f => rfl
  | ok bytes =>
    dsimp only
    cases Text.decode? bytes <;> rfl

/-! ## Folders that are there -/

/-- No folder is made where one stands. -/
theorem makeFolder_of_reaches (h : d.Reaches p) :
    ∃ f, d.run (makeFolder p) = (.error f, d) ∧ f ≠ .notFound := by
  obtain ⟨hwalk, hfolder⟩ := reaches_unclosed.mpr h
  unfold makeFolder
  rw [run_bind, run_locate, place, hwalk]
  by_cases hlong : p.unclosed.text.utf8ByteSize ≥ Path.limit
  · rw [if_pos hlong]
    exact ⟨.tooLong, rfl, by simp⟩
  · rw [if_neg hlong]
    refine ⟨.exists, ?_, by simp⟩
    show d.run (get >>= _) = _
    rw [run_get_bind]
    simp [hfolder]

theorem ensureFolder_of_reaches (h : d.Reaches p) :
    ∃ r, d.run (ensureFolder p) = (r, d) ∧ r ≠ .error .notFound := by
  obtain ⟨f, hmake, hf⟩ := makeFolder_of_reaches h
  unfold ensureFolder
  rw [run_caught_bind, hmake]
  show ∃ r, d.run (caught (look p) >>= _) = (r, d) ∧ _
  rw [run_caught_bind, run_look]
  cases d.place p with
  | error _ => exact ⟨.error f, rfl, by simpa using hf⟩
  | ok q =>
    dsimp only
    rcases d.get? q with _ | (_ | _)
    · exact ⟨.error f, rfl, by simpa using hf⟩
    · exact ⟨.error f, rfl, by simpa using hf⟩
    · exact ⟨.ok (), rfl, by simp⟩

/-- The folders of a path that reaches one are all there. -/
theorem makeFolders_of_reaches (h : d.Reaches p) : (d.run (makeFolders p)).2 = d := by
  obtain ⟨r, hensure, hr⟩ := ensureFolder_of_reaches h
  unfold makeFolders
  rw [run_caught_bind, hensure]
  rcases r with f | _
  · cases f
    case notFound => exact absurd rfl hr
    all_goals rfl
  · rfl

/-! ## Folders that were made -/

theorem reaches_of_place {q : Place} (hplace : d.place p = .ok q)
    (hfolder : d.get? q = some .folder) : d.Reaches p := by
  obtain rfl := target_of_place hplace
  rw [place] at hplace
  split at hplace
  · exact absurd hplace (by simp)
  · exact ⟨hplace, hfolder⟩

/-- A folder that was made is there. -/
theorem reaches_of_makeFolder (h : d.run (makeFolder p) = (.ok (), d')) : d'.Reaches p := by
  obtain ⟨hplace, hget, rfl⟩ := run_makeFolder_eq_ok.mp h
  have hfree : d.get? (p.unclosed.target []) ≠ some .folder := by simp [hget]
  exact reaches_unclosed.mp (reaches_of_place (place_put hplace hfree _)
    (get?_put_self d _ (ne_nil_of_get? hfree)))

theorem reaches_of_ensureFolder (h : d.run (ensureFolder p) = (.ok (), d')) : d'.Reaches p := by
  unfold ensureFolder at h
  rw [run_caught_bind] at h
  rcases hmake : d.run (makeFolder p) with ⟨f | ⟨⟨⟩⟩, e⟩ <;> rw [hmake] at h
  · have h : e.run (caught (look p) >>= _) = (.ok (), d') := h
    rw [run_caught_bind, run_look] at h
    cases hplace : e.place p with
    | error f' => simp [hplace] at h
    | ok q =>
      simp only [hplace] at h
      rcases hget : e.get? q with _ | (_ | _) <;> simp only [hget] at h
      · exact absurd h (by simp)
      · exact absurd h (by simp)
      · obtain rfl : e = d' := (Prod.mk.inj h).2
        exact reaches_of_place hplace hget
  · obtain rfl : e = d' := (Prod.mk.inj h).2
    exact reaches_of_makeFolder hmake

/-- A path for which all folders were made reaches the last one. -/
theorem reaches_of_makeFolders (h : d.run (makeFolders p) = (.ok (), d')) : d'.Reaches p := by
  unfold makeFolders at h
  rw [run_caught_bind] at h
  rcases hensure : d.run (ensureFolder p) with ⟨f | ⟨⟨⟩⟩, e⟩ <;> rw [hensure] at h
  · cases f
    case notFound =>
      obtain ⟨-, e', -, hagain⟩ := run_bind_eq_ok.mp h
      exact reaches_of_ensureFolder hagain
    all_goals exact absurd h (by simp)
  · obtain rfl : e = d' := (Prod.mk.inj h).2
    exact reaches_of_ensureFolder hensure

/-! ## Folders that are missing -/

/-- The later disk has folders at some of these places where nothing stood, and is the same
otherwise. -/
def FoundsAt (P : Place → Prop) (d d' : Disk) : Prop :=
  ∀ q, d'.get? q = d.get? q ∨ P q ∧ d.get? q = none ∧ d'.get? q = some .folder

section FoundsAt

variable {P Q : Place → Prop}

theorem FoundsAt.refl (d : Disk) : FoundsAt P d d := fun _ => .inl rfl

theorem FoundsAt.trans (h : FoundsAt P d e) (h' : FoundsAt P e d') : FoundsAt P d d' := by
  intro q
  rcases h q with hq | ⟨hP, hnone, hfolder⟩
  · rw [← hq]
    exact h' q
  · rcases h' q with hq' | ⟨-, hnone', -⟩
    · exact .inr ⟨hP, hnone, hq'.trans hfolder⟩
    · rw [hfolder] at hnone'
      exact absurd hnone' (by simp)

instance : IsPreorder Disk (FoundsAt P) where
  refl := .refl
  trans _ _ _ := .trans

theorem FoundsAt.mono (h : FoundsAt P d d') (hPQ : ∀ q, P q → Q q) : FoundsAt Q d d' :=
  fun q => (h q).imp_right fun hq => ⟨hPQ q hq.1, hq.2⟩

/-- What stood somewhere stays there. -/
theorem FoundsAt.stays (h : FoundsAt P d d') {q : Place} {i : Item} (hq : d.get? q = some i) :
    d'.get? q = some i := by
  rcases h q with hsame | ⟨-, hnone, -⟩
  · rw [hsame, hq]
  · rw [hq] at hnone
    exact absurd hnone (by simp)

theorem foundsAt_makeFolder {p : Path} (hp : P (p.target [])) :
    Leads (FoundsAt P) (makeFolder p) := by
  intro d
  rcases makeFolder_cases d p with h | ⟨hplace, hget⟩
  · exact h.leads
  · rw [run_makeFolder hplace hget]
    rw [Path.target_unclosed] at hget ⊢
    intro q
    rcases eq_or_ne q [] with rfl | hq
    · exact .inl rfl
    · rw [get?_put d _ hq]
      split
      · next heq =>
        rw [heq]
        exact .inr ⟨hp, hget, rfl⟩
      · exact .inl rfl

end FoundsAt

/-- The later disk has folders on the way to a place where nothing stood, and is the same
otherwise. -/
def Founds (t : Place) (d d' : Disk) : Prop := FoundsAt (· <+: t) d d'

variable {t : Place}

/-- Everything stands in a folder. -/
def Grounded (d : Disk) : Prop :=
  ∀ x ∈ d.items, d.get? x.1.dropLast = some .folder
  deriving Decidable

/-- Nothing stands where no folder is. -/
theorem Grounded.get?_below (h : d.Grounded) {q : Place} (hq : d.get? q = none) (name : String) :
    d.get? (q ++ [name]) = none := by
  by_contra hsome
  obtain ⟨i, hi⟩ := Option.ne_none_iff_exists'.mp hsome
  rw [get?, if_neg (by simp)] at hi
  obtain ⟨x, hx, -⟩ := Option.map_eq_some_iff.mp hi
  have hplace : x.1 = q ++ [name] := by simpa using List.find?_some hx
  have hfolder := h x (List.mem_of_find?_eq_some hx)
  rw [hplace, List.dropLast_concat, hq] at hfolder
  exact absurd hfolder (by simp)

/-- The bytes of the file to which a path leads from a place. -/
def bytesFrom (d : Disk) (here : Place) (p : Path) : Except DiskFault (List UInt8) :=
  match d.placeFrom here p with
  | .error f => .error f
  | .ok q =>
    match d.get? q with
    | none => .error .notFound
    | some .folder => .error .isFolder
    | some (.file bytes) => .ok bytes

theorem fst_run_readBytes (d : Disk) (p : Path) :
    (d.run (readBytes p)).1 =
      if p.text.utf8ByteSize ≥ Path.limit then .error .tooLong else d.bytesFrom [] p := by
  unfold readBytes bytesFrom
  rw [run_bind, run_look, place]
  by_cases hlong : p.text.utf8ByteSize ≥ Path.limit
  · rw [if_pos hlong, if_pos hlong]
  · rw [if_neg hlong, if_neg hlong]
    cases d.placeFrom [] p with
    | error f => rfl
    | ok q =>
      dsimp only
      rcases d.get? q with _ | (_ | _) <;> rfl

/-- A path through nothing leads to nothing, also when folders are made on its way. -/
theorem bytesFrom_of_none (hd : d.Grounded) (h : Founds t d d') {here : Place} (hp : p.Descends)
    (ht : ¬ p.target here <+: t) (hnone : d.get? here = none) :
    d'.bytesFrom here p = .error .notFound := by
  induction p generalizing here with
  | nil =>
    rcases h here with hsame | ⟨hfront, -, -⟩
    · simp [bytesFrom, placeFrom, hsame, hnone]
    · exact absurd hfront ht
  | cons part p ih =>
    have hrest : Path.Descends p := fun x hx => hp x (List.mem_cons_of_mem _ hx)
    obtain ⟨hup, hshort⟩ := hp part List.mem_cons_self
    rcases h here with hsame | ⟨-, -, hfolder⟩
    · simp [bytesFrom, placeFrom, hsame, hnone]
    · -- the walk gets into a folder that was made, below which nothing stood either
      by_cases hidle : Path.isIdle part = true
      · simp only [Path.target, hidle, if_true] at ht
        have := ih hrest ht hnone
        simpa [bytesFrom, placeFrom, hfolder, hidle] using this
      · simp only [Path.target, hidle, hup, if_false] at ht
        have := ih hrest ht (hd.get?_below hnone part)
        simpa [bytesFrom, placeFrom, hfolder, hidle, hup, Nat.not_lt.mpr hshort] using this

theorem bytesFrom_founds (hd : d.Grounded) (h : Founds t d d') {here : Place} (hp : p.Descends)
    (ht : ¬ p.target here <+: t) : d'.bytesFrom here p = d.bytesFrom here p := by
  induction p generalizing here with
  | nil =>
    rcases h here with hsame | ⟨hfront, -, -⟩
    · simp [bytesFrom, placeFrom, hsame]
    · exact absurd hfront ht
  | cons part p ih =>
    have hrest : Path.Descends p := fun x hx => hp x (List.mem_cons_of_mem _ hx)
    obtain ⟨hup, hshort⟩ := hp part List.mem_cons_self
    cases hget : d.get? here with
    | none =>
      -- nothing stands here, and the folders that are made lead elsewhere
      rw [bytesFrom_of_none hd h hp ht hget]
      simp [bytesFrom, placeFrom, hget]
    | some i =>
      have hget' : d'.get? here = some i := FoundsAt.stays h hget
      cases i with
      | file bytes => simp [bytesFrom, placeFrom, hget, hget']
      | folder =>
        by_cases hidle : Path.isIdle part = true
        · simp only [Path.target, hidle, if_true] at ht
          have := ih hrest ht
          simpa [bytesFrom, placeFrom, hget, hget', hidle] using this
        · simp only [Path.target, hidle, hup, if_false] at ht
          have := ih hrest ht
          simpa [bytesFrom, placeFrom, hget, hget', hidle, hup, Nat.not_lt.mpr hshort] using this

/-- What can be read does not change when missing folders are made, unless one of them is to be
read. -/
theorem readBytes_founds (hd : d.Grounded) (h : Founds t d d') (hp : p.Descends)
    (ht : ¬ p.target [] <+: t) : (d'.run (readBytes p)).1 = (d.run (readBytes p)).1 := by
  rw [fst_run_readBytes, fst_run_readBytes, bytesFrom_founds hd h hp ht]

end Disk

end AppBundle
