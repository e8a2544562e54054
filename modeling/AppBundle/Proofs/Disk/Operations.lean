import AppBundle.Proofs.Disk.Place
import AppBundle.Proofs.Text.Bytes
import Mathlib.Order.Defs.Unbundled

/-!
# What operations do to a disk

An operation on one place either fails and leaves the disk as it is, or does one thing to the place
where its path leads (`Disk.create_cases` and the others). A file that was written reads as what was
written (`Disk.readText_of_writeText`).
-/

namespace AppBundle

namespace Disk

variable {α β : Type} {d d' : Disk} {p : Path}

/-- The result of an operation, and the disk it leaves. -/
def run (d : Disk) (op : OnDisk α) : Except DiskFault α × Disk :=
  (attempt op).run d

@[simp] theorem run_pure (d : Disk) (a : α) : d.run (pure a) = (.ok a, d) := rfl

@[simp] theorem run_throw (d : Disk) (f : DiskFault) :
    d.run (throw f : OnDisk α) = (.error f, d) := rfl

@[simp] theorem run_modify (d : Disk) (f : Disk → Disk) : d.run (modify f) = (.ok (), f d) := rfl

@[simp] theorem run_get_bind (d : Disk) (f : Disk → OnDisk α) :
    d.run (get >>= f) = d.run (f d) := rfl

@[simp] theorem run_caught_bind (d : Disk) (op : OnDisk β) (f : Except DiskFault β → OnDisk α) :
    d.run (caught op >>= f) = (d.run op).2.run (f (d.run op).1) := rfl

theorem run_lift_bind (d : Disk) (op : StateM Disk β) (f : β → OnDisk α) :
    d.run (liftM op >>= f) = (op.run d).2.run (f (op.run d).1) := rfl

theorem run_attempt_bind (d : Disk) (op : OnDisk β) (f : Except DiskFault β → StateM Disk α) :
    (attempt op >>= f).run d = (f (d.run op).1).run (d.run op).2 := rfl

theorem run_bind (d : Disk) (x : OnDisk α) (f : α → OnDisk β) :
    d.run (x >>= f) =
      match d.run x with
      | (.ok a, e) => e.run (f a)
      | (.error e, d') => (.error e, d') := by
  show (d.run x).2.run (ExceptT.mk (ExceptT.bindCont f (d.run x).1)) = _
  rcases d.run x with ⟨_ | _, e⟩ <;> rfl

/-- An operation succeeds if both of its parts do. -/
theorem run_bind_eq_ok {x : OnDisk α} {f : α → OnDisk β} {b : β} :
    d.run (x >>= f) = (.ok b, d') ↔ ∃ a e, d.run x = (.ok a, e) ∧ e.run (f a) = (.ok b, d') := by
  rw [run_bind]
  rcases d.run x with ⟨f | a, e⟩ <;> simp

/-- The operation fails and leaves the disk as it is. -/
def Refuses (d : Disk) (op : OnDisk α) : Prop :=
  ∃ f, d.run op = (.error f, d)

theorem Refuses.bind {x : OnDisk α} {f : α → OnDisk β} (h : d.Refuses x) : d.Refuses (x >>= f) := by
  obtain ⟨e, h⟩ := h
  exact ⟨e, by rw [run_bind, h]⟩

theorem Refuses.ne_ok {op : OnDisk α} {a : α} (h : d.Refuses op) : d.run op ≠ (.ok a, d') := by
  obtain ⟨f, h⟩ := h
  simp [h]

/-! ## Finding places -/

theorem run_locate (d : Disk) (p : Path) :
    d.run (locate p) =
      match d.place p with
      | .ok q => (.ok q, d)
      | .error f => (.error f, d) := by
  unfold locate
  rw [run_get_bind]
  cases d.place p <;> rfl

/-- An operation that begins with finding a place goes on with the place to which the parts of the
path lead. -/
theorem locate_bind_cases (d : Disk) (p : Path) (f : Place → OnDisk α) :
    d.Refuses (locate p >>= f) ∨
      d.place p = .ok (p.target []) ∧ d.run (locate p >>= f) = d.run (f (p.target [])) := by
  rw [Refuses, run_bind, run_locate]
  cases h : d.place p with
  | error e => exact .inl ⟨e, rfl⟩
  | ok q =>
    obtain rfl := target_of_place h
    exact .inr ⟨rfl, rfl⟩

/-! ## Reading -/

theorem run_look (d : Disk) (p : Path) :
    d.run (look p) =
      match d.place p with
      | .ok q => (.ok (d.get? q), d)
      | .error f => (.error f, d) := by
  unfold look
  rw [run_bind, run_locate]
  cases d.place p <;> rfl

/-- A file is read where the path leads. -/
theorem run_readBytes {bytes : List UInt8} (hplace : d.place p = .ok (p.target []))
    (hget : d.get? (p.target []) = some (.file bytes)) : d.run (readBytes p) = (.ok bytes, d) := by
  unfold readBytes
  rw [run_bind, run_look, hplace]
  simp only [hget]
  rfl

theorem readBytes_cases (d : Disk) (p : Path) :
    d.Refuses (readBytes p) ∨
      ∃ bytes, d.place p = .ok (p.target []) ∧ d.get? (p.target []) = some (.file bytes) := by
  unfold readBytes
  rw [Refuses, run_bind, run_look]
  cases hplace : d.place p with
  | error f => exact .inl ⟨f, rfl⟩
  | ok q =>
    obtain rfl := target_of_place hplace
    rcases hget : d.get? (p.target []) with _ | (bytes | _)
    · exact .inl ⟨.notFound, by simp [hget]⟩
    · exact .inr ⟨bytes, rfl, rfl⟩
    · exact .inl ⟨.isFolder, by simp [hget]⟩

theorem run_readText {bytes : List UInt8} {s : String} (hplace : d.place p = .ok (p.target []))
    (hget : d.get? (p.target []) = some (.file bytes)) (hs : Text.decode? bytes = some s) :
    d.run (readText p) = (.ok s, d) := by
  unfold readText
  rw [run_bind, run_readBytes hplace hget]
  simp [hs]

/-- What has no bytes has no text. -/
theorem Refuses.readText (h : d.Refuses (readBytes p)) : d.Refuses (readText p) := h.bind

theorem readText_cases (d : Disk) (p : Path) :
    d.Refuses (readText p) ∨
      ∃ bytes s, d.get? (p.target []) = some (.file bytes) ∧ Text.decode? bytes = some s ∧
        d.run (readText p) = (.ok s, d) := by
  rcases readBytes_cases d p with h | ⟨bytes, hplace, hget⟩
  · exact .inl h.readText
  · cases hs : Text.decode? bytes with
    | none =>
      refine .inl ⟨.notText, ?_⟩
      unfold readText
      rw [run_bind, run_readBytes hplace hget]
      simp [hs]
    | some s => exact .inr ⟨bytes, s, hget, hs, run_readText hplace hget hs⟩

/-! ## Writing -/

theorem create_cases (d : Disk) (p : Path) :
    d.Refuses (create p) ∨
      p.getLast? ≠ some "" ∧ d.place p = .ok (p.target []) ∧
        d.get? (p.target []) ≠ some .folder := by
  unfold create
  split
  · left
    rcases locate_bind_cases d (p.unclosed.dropLast ++ [""]) fun _ =>
      (throw .isFolder : OnDisk Unit) with h | ⟨-, h⟩
    · exact h
    · exact ⟨.isFolder, h⟩
  · next hlast =>
    rcases locate_bind_cases d p _ with h | ⟨hplace, h⟩
    · exact .inl h
    · rw [Refuses, h, run_get_bind]
      rcases hget : d.get? (p.target []) with _ | (bytes | _)
      · exact .inr ⟨hlast, hplace, by simp⟩
      · exact .inr ⟨hlast, hplace, by simp⟩
      · exact .inl ⟨.isFolder, by simp⟩

/-- A file is put where no folder stands. -/
theorem run_create (hlast : p.getLast? ≠ some "") (hplace : d.place p = .ok (p.target []))
    (hget : d.get? (p.target []) ≠ some .folder) :
    d.run (create p) = (.ok (), d.put (p.target []) (.file [])) := by
  unfold create
  rw [if_neg hlast, run_bind, run_locate, hplace]
  show d.run (get >>= _) = _
  rw [run_get_bind]
  rcases h : d.get? (p.target []) with _ | (bytes | _)
  · simp
  · simp
  · exact absurd h hget

/-- More bytes go to the end of a file. -/
theorem run_append {old : List UInt8} (hplace : d.place p = .ok (p.target []))
    (hget : d.get? (p.target []) = some (.file old)) (bytes : List UInt8) :
    d.run (append p bytes) = (.ok (), d.put (p.target []) (.file (old ++ bytes))) := by
  unfold append
  rw [run_bind, run_locate, hplace]
  show d.run (get >>= _) = _
  rw [run_get_bind]
  simp [hget]

/-- A file is written as a whole. -/
theorem run_write (hlast : p.getLast? ≠ some "") (hplace : d.place p = .ok (p.target []))
    (hget : d.get? (p.target []) ≠ some .folder) (bytes : List UInt8) :
    d.run (write p bytes) = (.ok (), d.put (p.target []) (.file bytes)) := by
  have hempty := get?_put_self d (.file []) (ne_nil_of_get? hget)
  unfold write
  rw [run_bind, run_create hlast hplace hget]
  show (d.put (p.target []) (.file [])).run (append p bytes) = _
  rw [run_append (place_put hplace hget _) hempty, put_put, List.nil_append]

/-- A file is written as a whole or not at all. -/
theorem write_cases (d : Disk) (p : Path) (bytes : List UInt8) :
    d.Refuses (write p bytes) ∨
      p.getLast? ≠ some "" ∧ d.place p = .ok (p.target []) ∧
        d.get? (p.target []) ≠ some .folder :=
  (create_cases d p).imp_left fun h => h.bind

/-- A text is written if its path leads to a place where no folder stands. -/
theorem run_writeText_eq_ok {s : String} :
    d.run (writeText p s) = (.ok (), d') ↔
      p.getLast? ≠ some "" ∧ d.place p = .ok (p.target []) ∧
        d.get? (p.target []) ≠ some .folder ∧
          d' = d.put (p.target []) (.file (Text.encode s.toList)) := by
  constructor
  · intro h
    rcases write_cases d p (Text.encode s.toList) with hno | ⟨hlast, hplace, hget⟩
    · exact absurd h hno.ne_ok
    · rw [writeText, run_write hlast hplace hget] at h
      exact ⟨hlast, hplace, hget, (Prod.mk.inj h).2.symm⟩
  · rintro ⟨hlast, hplace, hget, rfl⟩
    exact run_write hlast hplace hget _

/-- A file that was written reads as what was written. -/
theorem readText_of_writeText {s : String} (h : d.run (writeText p s) = (.ok (), d')) :
    d'.run (readText p) = (.ok s, d') := by
  obtain ⟨-, hplace, hget, rfl⟩ := run_writeText_eq_ok.mp h
  exact run_readText (place_put hplace hget _) (get?_put_self d _ (ne_nil_of_get? hget))
    (Text.decode?_encode s)

/-- A file reads as before when another one is written. -/
theorem readText_of_writeText_other {q : Path} {s t : String}
    (hread : d.run (readText q) = (.ok s, d)) (hwrite : d.run (writeText p t) = (.ok (), d'))
    (hne : q.target [] ≠ p.target []) : d'.run (readText q) = (.ok s, d') := by
  obtain ⟨-, -, hget, rfl⟩ := run_writeText_eq_ok.mp hwrite
  rcases readBytes_cases d q with hno | ⟨bytes, hplace', hget'⟩
  · exact absurd hread hno.readText.ne_ok
  have htext : Text.decode? bytes = some s := by
    rcases readText_cases d q with hno | ⟨bytes', s', hbytes, hs, hrun⟩
    · exact absurd hread hno.ne_ok
    · rw [hread] at hrun
      obtain rfl := Except.ok.inj (Prod.mk.inj hrun).1
      obtain rfl := Item.file.inj (Option.some.inj (hget'.symm.trans hbytes))
      exact hs
  refine run_readText (place_put hplace' hget _) ?_ htext
  rw [get?_put d _ (ne_nil_of_file hget'), if_neg hne, hget']

section Several

variable {path : α → Path} {text : α → String} {xs : List α}

theorem readText_of_writes_other {q : Path} {s : String} (hread : d.run (readText q) = (.ok s, d))
    (hwrite : d.run (xs.forM fun x => writeText (path x) (text x)) = (.ok (), d'))
    (hne : ∀ x ∈ xs, q.target [] ≠ (path x).target []) : d'.run (readText q) = (.ok s, d') := by
  induction xs generalizing d with
  | nil =>
    obtain rfl := (Prod.mk.inj hwrite).2
    exact hread
  | cons x xs ih =>
    obtain ⟨_, e, hfirst, hrest⟩ := run_bind_eq_ok.mp hwrite
    have hkept := readText_of_writeText_other hread hfirst (hne x List.mem_cons_self)
    exact ih hkept hrest fun y hy => hne y (List.mem_cons_of_mem x hy)

/-- Files that were written at places of their own read as what was written. -/
theorem readText_of_writes (hnodup : (xs.map fun x => (path x).target []).Nodup)
    (hwrite : d.run (xs.forM fun x => writeText (path x) (text x)) = (.ok (), d')) :
    ∀ x ∈ xs, d'.run (readText (path x)) = (.ok (text x), d') := by
  induction xs generalizing d with
  | nil => simp
  | cons x xs ih =>
    obtain ⟨_, e, hfirst, hrest⟩ := run_bind_eq_ok.mp hwrite
    rw [List.map_cons, List.nodup_cons] at hnodup
    intro y hy
    rcases List.mem_cons.mp hy with rfl | hy
    · refine readText_of_writes_other (readText_of_writeText hfirst) hrest fun z hz heq => ?_
      exact hnodup.1 (heq ▸ List.mem_map_of_mem hz)
    · exact ih hnodup.2 hrest y hy

end Several

/-- A file is taken away where the path leads. -/
theorem run_remove {bytes : List UInt8} (hplace : d.place p = .ok (p.target []))
    (hget : d.get? (p.target []) = some (.file bytes)) :
    d.run (remove p) = (.ok (), d.drop (p.target [])) := by
  unfold remove
  rw [run_bind, run_locate, hplace]
  show d.run (get >>= _) = _
  rw [run_get_bind]
  simp [hget]

theorem remove_cases (d : Disk) (p : Path) :
    d.Refuses (remove p) ∨
      ∃ bytes, d.get? (p.target []) = some (.file bytes) ∧
        d.run (remove p) = (.ok (), d.drop (p.target [])) := by
  unfold remove
  rcases locate_bind_cases d p _ with h | ⟨-, h⟩
  · exact .inl h
  · rw [Refuses, h, run_get_bind]
    rcases hget : d.get? (p.target []) with _ | (bytes | _)
    · exact .inl ⟨.notFound, by simp⟩
    · exact .inr ⟨bytes, rfl, by simp⟩
    · exact .inl ⟨.isFolder, by simp⟩

/-- Of a file that is there it depends on the other place whether it can be moved. -/
theorem run_rename_of_file {source : Path} {bytes : List UInt8}
    (hplace : d.place source = .ok (source.target []))
    (hget : d.get? (source.target []) = some (.file bytes)) (target : Path) :
    d.run (rename source target) = d.run (locate target >>= fun q => do
      match (← get).get? q with
      | some .folder => throw .isFolder
      | _ => modify fun d => (d.drop (source.target [])).put q (.file bytes)) := by
  unfold rename
  rw [run_bind, run_readBytes hplace hget]
  show d.run (locate source >>= _) = _
  rewrite [run_bind, run_locate, hplace]
  rfl

/-- A file is moved to a place where no folder stands. -/
theorem run_rename {source target : Path} {bytes : List UInt8}
    (hplace : d.place source = .ok (source.target []))
    (hget : d.get? (source.target []) = some (.file bytes))
    (hplace' : d.place target = .ok (target.target []))
    (hget' : d.get? (target.target []) ≠ some .folder) :
    d.run (rename source target) =
      (.ok (), (d.drop (source.target [])).put (target.target []) (.file bytes)) := by
  rw [run_rename_of_file hplace hget, run_bind, run_locate, hplace']
  show d.run (get >>= _) = _
  rw [run_get_bind]
  rcases hold : d.get? (target.target []) with _ | (old | _)
  · simp
  · simp
  · exact absurd hold hget'

/-- A file is moved as a whole or not at all. -/
theorem rename_cases (d : Disk) (source target : Path) :
    d.Refuses (rename source target) ∨
      ∃ bytes, d.get? (source.target []) = some (.file bytes) ∧
        d.place target = .ok (target.target []) ∧ d.get? (target.target []) ≠ some .folder ∧
        d.run (rename source target) =
          (.ok (), (d.drop (source.target [])).put (target.target []) (.file bytes)) := by
  rcases readBytes_cases d source with h | ⟨bytes, hplace, hget⟩
  · exact .inl h.bind
  · have hrun := run_rename_of_file hplace hget target
    rcases locate_bind_cases d target _ with h | ⟨hplace', h⟩
    · rw [Refuses, hrun]
      exact .inl h
    · by_cases hold : d.get? (target.target []) = some .folder
      · refine .inl ⟨.isFolder, ?_⟩
        rw [hrun, h, run_get_bind]
        simp [hold]
      · exact .inr ⟨bytes, hget, hplace', hold, run_rename hplace hget hplace' hold⟩

theorem makeFolder_cases (d : Disk) (p : Path) :
    d.Refuses (makeFolder p) ∨
      d.place p.unclosed = .ok (p.unclosed.target []) ∧ d.get? (p.unclosed.target []) = none := by
  unfold makeFolder
  rcases locate_bind_cases d p.unclosed _ with h | ⟨hplace, h⟩
  · exact .inl h
  · rw [Refuses, h, run_get_bind]
    cases hget : d.get? (p.unclosed.target []) with
    | none => exact .inr ⟨hplace, rfl⟩
    | some i => exact .inl ⟨.exists, by simp⟩

/-- A folder is put where nothing stands. -/
theorem run_makeFolder (hplace : d.place p.unclosed = .ok (p.unclosed.target []))
    (hget : d.get? (p.unclosed.target []) = none) :
    d.run (makeFolder p) = (.ok (), d.put (p.unclosed.target []) .folder) := by
  unfold makeFolder
  rw [run_bind, run_locate, hplace]
  show d.run (get >>= _) = _
  rw [run_get_bind]
  simp [hget]

theorem run_makeFolder_eq_ok :
    d.run (makeFolder p) = (.ok (), d') ↔
      d.place p.unclosed = .ok (p.unclosed.target []) ∧ d.get? (p.unclosed.target []) = none ∧
        d' = d.put (p.unclosed.target []) .folder := by
  constructor
  · intro h
    rcases makeFolder_cases d p with hno | ⟨hplace, hget⟩
    · exact absurd h hno.ne_ok
    · rw [run_makeFolder hplace hget] at h
      exact ⟨hplace, hget, (Prod.mk.inj h).2.symm⟩
  · rintro ⟨hplace, hget, rfl⟩
    exact run_makeFolder hplace hget

/-- A folder that is not made leaves the disk as it is. -/
theorem eq_of_makeFolder_error {f : DiskFault} (h : d.run (makeFolder p) = (.error f, d')) :
    d' = d := by
  rcases makeFolder_cases d p with ⟨f', hno⟩ | ⟨hplace, hget⟩
  · exact (Prod.mk.inj (h.symm.trans hno)).2
  · rw [run_makeFolder hplace hget] at h
    exact absurd (Prod.mk.inj h).1 (by simp)

/-! ## Long operations -/

/-- Whatever the operation comes to, it leads to a related disk. -/
def Leads (R : Disk → Disk → Prop) (op : OnDisk α) : Prop :=
  ∀ d, R d (d.run op).2

section Leads

variable {R : Disk → Disk → Prop} [IsPreorder Disk R]

omit [IsPreorder Disk R] in
theorem Leads.of_run {op : OnDisk α} (h : Leads R op) {r : Except DiskFault α}
    (hrun : d.run op = (r, d')) : R d d' := by
  have hled := h d
  rwa [hrun] at hled

theorem Leads.pure (a : α) : Leads R (pure a) := fun d => refl_of R d

theorem Leads.throw (f : DiskFault) : Leads R (throw f : OnDisk α) := fun d => refl_of R d

theorem Leads.bind {x : OnDisk α} {f : α → OnDisk β} (hx : Leads R x)
    (hf : ∀ a, Leads R (f a)) : Leads R (x >>= f) := by
  intro d
  have hfirst := hx d
  rw [run_bind]
  rcases hrun : d.run x with ⟨_ | a, e⟩ <;> rw [hrun] at hfirst
  · exact hfirst
  · exact trans_of R hfirst (hf a e)

omit [IsPreorder Disk R] in
theorem Leads.caught {op : OnDisk α} (h : Leads R op) : Leads R (caught op) := fun d => h d

theorem Leads.forM {as : List α} {f : α → OnDisk Unit} (h : ∀ a ∈ as, Leads R (f a)) :
    Leads R (as.forM f) := by
  induction as with
  | nil => exact .pure ()
  | cons a as ih =>
    exact .bind (h a List.mem_cons_self) fun _ => ih fun b hb => h b (List.mem_cons_of_mem _ hb)

theorem Refuses.leads {op : OnDisk α} (h : d.Refuses op) : R d (d.run op).2 := by
  obtain ⟨f, h⟩ := h
  rw [h]
  exact refl_of R d

theorem leads_look (p : Path) : Leads R (look p) := by
  intro d
  rw [run_look]
  cases d.place p <;> exact refl_of R d

theorem leads_ensureFolder (h : Leads R (makeFolder p)) : Leads R (ensureFolder p) := by
  refine .bind h.caught fun r => ?_
  cases r with
  | ok _ => exact .pure ()
  | error f =>
    refine .bind (leads_look p).caught fun r => ?_
    split
    · exact .pure ()
    · exact .throw f

theorem leads_ensureFolders {parts : List String}
    (h : ∀ q : Path, q.reverse <:+ parts → Leads R (makeFolder q)) :
    Leads R (ensureFolders parts) := by
  induction parts with
  | nil => exact .pure ()
  | cons name above ih =>
    have hself : Leads R (makeFolder (name :: above).reverse) := h _ (by simp)
    have habove := ih fun q hq => h q (hq.trans (List.suffix_cons name above))
    refine .bind (leads_ensureFolder hself).caught fun r => ?_
    split
    · exact .pure ()
    · exact .bind habove fun _ => leads_ensureFolder hself
    · exact .throw _

/-- The folders that are made for a path are its own and those above its last name. -/
theorem leads_makeFolders (hself : Leads R (makeFolder p))
    (habove : ∀ q : Path, q <+: (p.filter (!Path.isIdle ·)).dropLast → Leads R (makeFolder q)) :
    Leads R (makeFolders p) := by
  refine .bind (leads_ensureFolder hself).caught fun r => ?_
  split
  · exact .pure ()
  · refine .bind (leads_ensureFolders fun q hq => habove q ?_) fun _ => leads_ensureFolder hself
    exact List.reverse_suffix.mp hq
  · exact .throw _

end Leads

end Disk

end AppBundle
