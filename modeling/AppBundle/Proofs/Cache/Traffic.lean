import AppBundle.Proofs.Cache.Calls
import Mathlib.Data.List.TakeDrop

/-!
# Calls that run side by side

Keeping a bundle takes several steps on the disk: its draft is opened, its bytes are written in one
or more pieces, and the draft is moved to its place. Between two steps of a call other calls take
theirs, be it in the same process or in another one (`Traffic.Step`). An open file is written where
it stands. It goes along when it is moved, and what is written to it is lost once it is taken away.

A call that no other comes between does what keeping a bundle does (`Call.run_after`).
-/

namespace AppBundle

open AppBundle.Text
open Disk

/-! ## Open files -/

/-- A file that is open for writing. -/
structure OpenFile where
  /-- Where it stands, unless it was taken away. -/
  place : Option Place
  /-- How many bytes were written to it. -/
  written : Nat
  deriving DecidableEq

/-- What a step does to files that stand somewhere. -/
inductive Shift where
  /-- All stay where they are. -/
  | still
  /-- One is moved to another place, from which the file there goes away. -/
  | moved (source target : Place)
  /-- One is taken away. -/
  | gone (place : Place)

/-- An open file behind a step. -/
def OpenFile.shifted (f : OpenFile) : Shift → OpenFile
  | .still => f
  | .moved source target =>
    if f.place = some source then { f with place := some target }
    else if f.place = some target then { f with place := none }
    else f
  | .gone place => if f.place = some place then { f with place := none } else f

namespace OpenFile

variable {f : OpenFile} {p q source target : Place}

theorem mem_place_of_gone (h : q ∈ (f.shifted (.gone p)).place) : q ∈ f.place := by
  rw [shifted] at h
  split at h
  · exact absurd h (by simp)
  · exact h

theorem mem_place_of_moved (h : q ∈ (f.shifted (.moved source target)).place) :
    source ∈ f.place ∧ q = target ∨ q ∈ f.place := by
  rw [shifted] at h
  split at h
  · next hfrom => exact .inl ⟨hfrom, (Option.some.inj h).symm⟩
  · split at h
    · exact absurd h (by simp)
    · exact .inr h

theorem shifted_gone_of_ne (h : f.place = some q) (hne : q ≠ p) : f.shifted (.gone p) = f := by
  rw [shifted, h, if_neg (by simpa using hne)]

theorem shifted_moved_of_ne (h : f.place = some q) (hsource : q ≠ source) (htarget : q ≠ target) :
    f.shifted (.moved source target) = f := by
  rw [shifted, h, if_neg (by simpa using hsource), if_neg (by simpa using htarget)]

end OpenFile

/-- Bytes with others written over them from an offset on. Where there are none up to the offset,
zeros fill the gap. -/
def overwrite (old : List UInt8) (offset : Nat) (bytes : List UInt8) : List UInt8 :=
  old.takeD offset 0 ++ bytes ++ old.drop (offset + bytes.length)

/-- The disk with more bytes written to an open file. -/
def Disk.writeTo (d : Disk) (f : OpenFile) (bytes : List UInt8) : Disk :=
  match f.place with
  | none => d
  | some p =>
    match d.get? p with
    | some (.file old) => d.put p (.file (overwrite old f.written bytes))
    | _ => d

/-! ## Calls -/

/-- How far a call that keeps a bundle has come. -/
inductive Stage where
  /-- Its folder is to be seen to. -/
  | folder
  /-- Its draft is to be opened. -/
  | draft
  /-- Its draft is open. When there is nothing left to write, it is to be moved to its place. -/
  | writing (file : OpenFile) (rest : List UInt8)
  /-- Its draft could not be moved and is to be taken away. -/
  | discarding (fault : DiskFault)
  /-- It has ended. -/
  | ended (result : Except DiskFault Unit)
  /-- It was broken off. -/
  | lost

namespace Stage

/-- Whether there is something left to do. -/
def UnderWay : Stage → Prop
  | .ended _ | .lost => False
  | _ => True

/-- How far a call has come behind a step of another one. -/
def shifted (shift : Shift) : Stage → Stage
  | .writing file rest => .writing (file.shifted shift) rest
  | stage => stage

end Stage

/-- A call that keeps a bundle. -/
structure Call where
  /-- The cache. -/
  cache : Cache
  /-- The bundle and its app file. -/
  kept : KeptBundle
  /-- The numbers in the bundle fit their words. -/
  fits : kept.entry.Fits

namespace Call

/-- The path under which the bundle is written first. -/
def draft (call : Call) : Path :=
  call.cache.draftPath call.kept.sourceId call.kept.content

/-- The path of the bundle. -/
def target (call : Call) : Path :=
  call.cache.bundlePath call.kept.sourceId call.kept.content

/-- What is written. -/
def bytes (call : Call) : List UInt8 :=
  encode (Cache.bundleText call.kept.entry).toList

/-- The next step of a call: the stage it leads to, what it does to files, and the disk it leaves.
At most `piece` bytes are written at once. -/
def next (call : Call) (piece : Nat) (d : Disk) : Stage → Stage × Shift × Disk
  | .folder =>
    match d.run (makeFolders call.cache.folder) with
    | (.ok (), d) => (.draft, .still, d)
    | (.error f, d) => (.ended (.error f), .still, d)
  | .draft =>
    match d.run (create call.draft) with
    | (.ok (), d) => (.writing ⟨some (call.draft.target []), 0⟩ call.bytes, .still, d)
    | (.error f, d) => (.ended (.error f), .still, d)
  | .writing _ [] =>
    match d.run (rename call.draft call.target) with
    | (.ok (), d) => (.ended (.ok ()), .moved (call.draft.target []) (call.target.target []), d)
    | (.error f, d) => (.discarding f, .still, d)
  | .writing file (b :: rest) =>
    let part := (b :: rest).take piece
    (.writing { file with written := file.written + part.length } ((b :: rest).drop piece), .still,
      d.writeTo file part)
  | .discarding f =>
    match d.run (remove call.draft) with
    | (.ok (), d) => (.ended (.error f), .gone (call.draft.target []), d)
    | (.error _, d) => (.ended (.error f), .still, d)
  | .ended result => (.ended result, .still, d)
  | .lost => (.lost, .still, d)

end Call

/-! ## Several calls -/

/-- Calls under way, and the disk. -/
structure Traffic where
  /-- The disk. -/
  disk : Disk
  /-- The calls that have begun, and how far they have come. -/
  calls : List (Call × Stage)

namespace Traffic

/-- A call has begun. -/
def begin (t : Traffic) (call : Call) : Traffic :=
  { t with calls := t.calls ++ [(call, .folder)] }

/-- The calls behind a step of one of them. -/
def shifted (t : Traffic) (shift : Shift) : List (Call × Stage) :=
  t.calls.map fun (call, stage) => (call, stage.shifted shift)

/-- A call takes its next step. -/
def advance (t : Traffic) (i piece : Nat) : Traffic :=
  match t.calls[i]? with
  | none => t
  | some (call, stage) =>
    let (stage, shift, disk) := call.next piece t.disk stage
    ⟨disk, (t.shifted shift).set i (call, stage)⟩

/-- A call is broken off. -/
def lose (t : Traffic) (i : Nat) : Traffic :=
  { t with calls := t.calls.modify i fun (call, _) => (call, .lost) }

/-- A file is taken away. -/
def takeAway (t : Traffic) (p : Place) : Traffic :=
  ⟨t.disk.drop p, t.shifted (.gone p)⟩

/-- The calls that have begun. -/
def begun (t : Traffic) : List Call :=
  t.calls.map (·.1)

/-- What may happen next where caches have their files. -/
inductive Step (place : Place) (t : Traffic) : Traffic → Prop
  /-- A call begins. -/
  | begin (call : Call) (hplace : call.cache.place = place) : Step place t (t.begin call)
  /-- A call takes its next step. -/
  | advance (i piece : Nat) : Step place t (t.advance i piece)
  /-- A call is broken off. -/
  | lose (i : Nat) : Step place t (t.lose i)
  /-- The file of a bundle is taken away, by a call that found no bundle in it or that was to take
  it away. -/
  | takeAway (sourceId content : String)
      (hfile : t.disk.get? (place ++ [bundleName sourceId content]) ≠ some .folder) :
      Step place t (t.takeAway (place ++ [bundleName sourceId content]))
  /-- The rest of the disk changes. -/
  | elsewhere (d : Disk) (hsame : ∀ name, d.get? (place ++ [name]) = t.disk.get? (place ++ [name])) :
      Step place t { t with disk := d }

/-- What steps lead to that keep to a rule. -/
inductive Reaches (place : Place) (Rule : Traffic → Prop) (t₀ : Traffic) : Traffic → Prop
  /-- Nothing has happened. -/
  | start (hrule : Rule t₀) : Reaches place Rule t₀ t₀
  /-- One more step. -/
  | step {t t' : Traffic} (h : Reaches place Rule t₀ t) (hstep : Step place t t')
      (hrule : Rule t') : Reaches place Rule t₀ t'

variable {t : Traffic} {i piece : Nat} {call : Call} {stage : Stage}

theorem getElem?_shifted (shift : Shift) (i : Nat) :
    (t.shifted shift)[i]? = t.calls[i]?.map fun (call, stage) => (call, stage.shifted shift) :=
  List.getElem?_map

theorem advance_of_none (h : t.calls[i]? = none) : t.advance i piece = t := by
  rw [advance, h]

theorem advance_of_some (h : t.calls[i]? = some (call, stage)) :
    t.advance i piece = ⟨(call.next piece t.disk stage).2.2,
      (t.shifted (call.next piece t.disk stage).2.1).set i
        (call, (call.next piece t.disk stage).1)⟩ := by
  rw [advance, h]

theorem begun_begin (t : Traffic) (call : Call) : (t.begin call).begun = t.begun ++ [call] :=
  List.map_append

theorem begun_shifted (t : Traffic) (shift : Shift) : (t.shifted shift).map (·.1) = t.begun := by
  rw [shifted, List.map_map]
  rfl

theorem begun_advance (t : Traffic) (i piece : Nat) : (t.advance i piece).begun = t.begun := by
  cases h : t.calls[i]? with
  | none => rw [advance_of_none h]
  | some x =>
    have hi : t.begun[i]? = some x.1 := by
      rw [begun, List.getElem?_map, h]
      rfl
    rw [advance_of_some h, begun, List.map_set, begun_shifted]
    apply List.ext_getElem?
    intro j
    rw [List.getElem?_set]
    by_cases hj : i = j
    · rw [if_pos hj, if_pos (List.getElem?_eq_some_iff.mp hi).1, ← hj, hi]
    · rw [if_neg hj]

theorem begun_lose (t : Traffic) (i : Nat) : (t.lose i).begun = t.begun := by
  apply List.ext_getElem?
  intro j
  rw [begun, begun, List.getElem?_map, List.getElem?_map, lose, List.getElem?_modify]
  cases t.calls[j]? with
  | none => rfl
  | some c =>
    show some (if i = j then (c.1, Stage.lost) else c).1 = some c.1
    split <;> rfl

end Traffic

/-! ## A call alone -/

namespace Call

variable (call : Call)

/-- How far a call has come, and the disk, after steps between which nothing else happens. -/
def after : List Nat → Stage → Disk → Stage × Disk
  | [], stage, d => (stage, d)
  | piece :: pieces, stage, d =>
    let (stage, _, d) := call.next piece d stage
    after pieces stage d

/-- What a call has still to do. -/
def remaining : Stage → OnDisk Unit
  | .folder => call.cache.writeBundle call.kept.sourceId call.kept.content call.kept.entry
  | .draft => do
    write call.draft call.bytes
    Cache.moveOrRemove call.draft call.target
  | .writing _ [] => Cache.moveOrRemove call.draft call.target
  | .writing _ (b :: rest) => do
    append call.draft (b :: rest)
    Cache.moveOrRemove call.draft call.target
  | .discarding f => do
    let _ ← caught (remove call.draft)
    throw f
  | .ended (.ok ()) => pure ()
  | .ended (.error f) => throw f
  | .lost => pure ()

/-- A draft that is open is all that was written to it. -/
def Ready (d : Disk) : Stage → Prop
  | .writing file _ =>
    file.place = some (call.draft.target []) ∧ d.place call.draft = .ok (call.draft.target []) ∧
      d.get? (call.draft.target []) ≠ some .folder ∧
      ∃ old, d.get? (call.draft.target []) = some (.file old) ∧ old.length = file.written
  | _ => True

variable {call} {d d' : Disk} {stage stage' : Stage} {shift : Shift} {piece : Nat}

/-- What is written where a file ends goes to its end. -/
theorem overwrite_length (old bytes : List UInt8) : overwrite old old.length bytes = old ++ bytes := by
  rw [overwrite, List.takeD_eq_take 0 (Nat.le_refl _), List.take_length,
    List.drop_eq_nil_of_le (by omega), List.append_nil]

/-- Behind what a call has written comes the rest, and then the draft is moved. -/
theorem run_remaining_put {file : OpenFile} {old rest : List UInt8}
    (hplace : d.place call.draft = .ok (call.draft.target []))
    (hfree : d.get? (call.draft.target []) ≠ some .folder) :
    (d.put (call.draft.target []) (.file old)).run (call.remaining (.writing file rest)) =
      (d.put (call.draft.target []) (.file (old ++ rest))).run
        (Cache.moveOrRemove call.draft call.target) := by
  cases rest with
  | nil => rw [List.append_nil, remaining]
  | cons b rest =>
    have hget := get?_put_self d (.file old) (ne_nil_of_get? hfree)
    have happend := run_append (place_put hplace hfree (.file old)) hget (b :: rest)
    rw [put_put] at happend
    rw [remaining, run_bind, happend]

/-- A draft that was opened is empty, and all bytes are still to be written. -/
theorem run_remaining_draft (hnext : call.next piece d .draft = (stage', shift, d')) :
    d'.run (call.remaining stage') = d.run (call.remaining .draft) ∧ call.Ready d' stage' := by
  rw [next] at hnext
  rw [remaining, run_bind]
  rcases create_cases d call.draft with ⟨f, hno⟩ | ⟨hlast, hplace, hfree⟩
  · obtain ⟨rfl, -, rfl⟩ := by simpa [hno] using hnext
    rw [write, run_bind, hno]
    exact ⟨rfl, trivial⟩
  · have hget := get?_put_self d (.file []) (ne_nil_of_get? hfree)
    rw [run_create hlast hplace hfree] at hnext
    obtain ⟨rfl, -, rfl⟩ := by simpa using hnext
    rw [run_write hlast hplace hfree, run_remaining_put hplace hfree, List.nil_append]
    exact ⟨rfl, rfl, place_put hplace hfree _, by simp [hget], [], hget, rfl⟩

/-- A piece is written where the pieces before it end. -/
theorem run_remaining_writing {file : OpenFile} {b : UInt8} {rest : List UInt8}
    (h : call.Ready d (.writing file (b :: rest)))
    (hnext : call.next piece d (.writing file (b :: rest)) = (stage', shift, d')) :
    d'.run (call.remaining stage') = d.run (call.remaining (.writing file (b :: rest))) ∧
      call.Ready d' stage' := by
  obtain ⟨hfile, hplace, hfree, old, hget, hlength⟩ := h
  have hwrite : ∀ part, d.writeTo file part =
      d.put (call.draft.target []) (.file (old ++ part)) := by
    intro part
    rw [writeTo, hfile]
    simp only [hget, ← hlength, overwrite_length]
  have hfirst := get?_put_self d (.file (old ++ (b :: rest).take piece)) (ne_nil_of_get? hfree)
  rw [next, hwrite] at hnext
  obtain ⟨rfl, -, rfl⟩ := Prod.mk.inj hnext |>.imp_right Prod.mk.inj
  rw [run_remaining_put hplace hfree, List.append_assoc, List.take_append_drop, remaining,
    run_bind, run_append hplace hget]
  refine ⟨rfl, hfile, place_put hplace hfree _, by simp [hfirst], _, hfirst, ?_⟩
  rw [List.length_append, hlength]

/-- A step of a call that no other comes between leaves the rest of the call to do. -/
theorem run_remaining_next (h : call.Ready d stage)
    (hnext : call.next piece d stage = (stage', shift, d')) :
    d'.run (call.remaining stage') = d.run (call.remaining stage) ∧ call.Ready d' stage' := by
  -- nothing is open in front of the draft and behind its move, so only the writes ask for `h`
  cases stage with
  | folder =>
    have hall : call.remaining .folder =
        (makeFolders call.cache.folder >>= fun _ => call.remaining .draft) := rfl
    rw [hall, run_bind]
    rw [next] at hnext
    rcases hrun : d.run (makeFolders call.cache.folder) with ⟨f | ⟨⟨⟩⟩, d₁⟩
    · rw [hrun] at hnext
      obtain ⟨rfl, -, rfl⟩ := by simpa using hnext
      exact ⟨rfl, trivial⟩
    · rw [hrun] at hnext
      obtain ⟨rfl, -, rfl⟩ := by simpa using hnext
      exact ⟨rfl, trivial⟩
  | draft => exact run_remaining_draft hnext
  | writing file rest =>
    cases rest with
    | nil =>
      rw [next] at hnext
      rw [remaining, Cache.moveOrRemove, run_caught_bind]
      rcases hrun : d.run (rename call.draft call.target) with ⟨f | ⟨⟨⟩⟩, d₁⟩
      · rw [hrun] at hnext
        obtain ⟨rfl, -, rfl⟩ := by simpa using hnext
        exact ⟨rfl, trivial⟩
      · rw [hrun] at hnext
        obtain ⟨rfl, -, rfl⟩ := by simpa using hnext
        exact ⟨rfl, trivial⟩
    | cons b rest => exact run_remaining_writing h hnext
  | discarding f =>
    rw [next] at hnext
    rw [remaining, run_caught_bind]
    rcases hrun : d.run (remove call.draft) with ⟨g | ⟨⟨⟩⟩, d₁⟩
    · rw [hrun] at hnext
      obtain ⟨rfl, -, rfl⟩ := by simpa using hnext
      exact ⟨rfl, trivial⟩
    · rw [hrun] at hnext
      obtain ⟨rfl, -, rfl⟩ := by simpa using hnext
      exact ⟨rfl, trivial⟩
  | ended result =>
    obtain ⟨rfl, -, rfl⟩ := by simpa [next] using hnext
    exact ⟨rfl, trivial⟩
  | lost =>
    obtain ⟨rfl, -, rfl⟩ := by simpa [next] using hnext
    exact ⟨rfl, trivial⟩

theorem run_remaining_after {pieces : List Nat} (h : call.Ready d stage)
    (hafter : call.after pieces stage d = (stage', d')) :
    d'.run (call.remaining stage') = d.run (call.remaining stage) := by
  induction pieces generalizing stage d with
  | nil =>
    obtain ⟨rfl, rfl⟩ := Prod.mk.inj hafter
    rfl
  | cons piece pieces ih =>
    rcases hnext : call.next piece d stage with ⟨stage₁, shift₁, d₁⟩
    obtain ⟨hstep, hready⟩ := run_remaining_next h hnext
    rw [after, hnext] at hafter
    rw [ih hready hafter, hstep]

/-- A call that no other comes between does what keeping a bundle does, in whatever pieces it
writes. -/
theorem run_after {pieces : List Nat} {result : Except DiskFault Unit}
    (h : call.after pieces .folder d = (.ended result, d')) :
    d.run (call.cache.writeBundle call.kept.sourceId call.kept.content call.kept.entry) =
      (result, d') := by
  have hready : call.Ready d .folder := trivial
  have hall := run_remaining_after hready h
  rw [remaining] at hall
  rw [← hall]
  cases result <;> rfl

/-- Steps between which nothing else happens bring the call to its end. -/
def Ends (call : Call) (stage : Stage) (d : Disk) : Prop :=
  ∃ pieces result d', call.after pieces stage d = (.ended result, d')

theorem Ends.of_next (piece : Nat) (h : call.Ends (call.next piece d stage).1
    (call.next piece d stage).2.2) : call.Ends stage d := by
  obtain ⟨pieces, result, d', hafter⟩ := h
  exact ⟨piece :: pieces, result, d', hafter⟩

theorem ends_of_ended (result : Except DiskFault Unit) (d : Disk) : call.Ends (.ended result) d :=
  ⟨[], result, d, rfl⟩

theorem ends_discarding (f : DiskFault) (d : Disk) : call.Ends (.discarding f) d := by
  apply Ends.of_next 0
  rw [next]
  rcases d.run (remove call.draft) with ⟨_ | _, d₁⟩ <;> exact ends_of_ended _ d₁

theorem ends_writing (file : OpenFile) (rest : List UInt8) (d : Disk) :
    call.Ends (.writing file rest) d := by
  have hmove : ∀ file d, call.Ends (.writing file []) d := by
    intro file d
    apply Ends.of_next 0
    rw [next]
    rcases d.run (rename call.draft call.target) with ⟨f | _, d₁⟩
    · exact ends_discarding f d₁
    · exact ends_of_ended _ d₁
  cases rest with
  | nil => exact hmove file d
  | cons b rest =>
    apply Ends.of_next (b :: rest).length
    rw [next, List.drop_length]
    exact hmove _ _

/-- A call that no other comes between ends. -/
theorem ends_folder (d : Disk) : call.Ends .folder d := by
  have hdraft : ∀ d, call.Ends .draft d := by
    intro d
    apply Ends.of_next 0
    rw [next]
    rcases d.run (create call.draft) with ⟨f | _, d₁⟩
    · exact ends_of_ended _ d₁
    · exact ends_writing _ _ d₁
  apply Ends.of_next 0
  rw [next]
  rcases d.run (makeFolders call.cache.folder) with ⟨f | _, d₁⟩
  · exact ends_of_ended _ d₁
  · exact hdraft d₁

end Call

end AppBundle
