import AppBundle.Proofs.Cache.Traffic
import AppBundle.Proofs.Modules

/-!
# What is read between the steps of calls

As long as no two calls of one process keep bundles under one key at a time, whoever reads the file
of that key finds no file or all bytes of a bundle that some call was to keep under it
(`Traffic.Reaches.find_complete`): every call has its draft for itself, and moves it when it is
written. Calls under other keys, and what becomes of their drafts, do not matter.

Two calls of one process that keep bundles under one key share a draft. One of them empties it
before the other moves it, and the file of the key is empty (`shared_draft_exposed`).
-/

namespace AppBundle

open AppBundle.Text
open Disk

/-! ## Places of drafts and bundles -/

namespace Call

/-- Where the draft stands. -/
def draftPlace (call : Call) : Place :=
  call.draft.target []

/-- Where the bundle stands. -/
def targetPlace (call : Call) : Place :=
  call.target.target []

theorem targetPlace_eq (call : Call) :
    call.targetPlace = call.cache.place ++ [call.kept.key ++ ".json"] :=
  call.cache.target_bundlePath call.kept.sourceId call.kept.content

theorem draftPlace_eq (call : Call) :
    call.draftPlace = call.cache.place ++
      [call.kept.key ++ ".json" ++ "." ++ decimal call.cache.process ++ ".tmp"] :=
  Path.target_child [] call.cache.folder (Path.isName_append _ (by decide))

variable {place : Place} {x y : Call}

/-- No draft stands where a bundle may stand. -/
theorem draftPlace_ne (x : Call) (place : Place) (key : String) :
    x.draftPlace ≠ place ++ [key ++ ".json"] := by
  have htmp : ".tmp".toList.getLast? = some 'p' := by decide
  have hjson : ".json".toList.getLast? = some 'n' := by decide
  rw [draftPlace_eq]
  intro heq
  exact append_ne_append htmp hjson (by decide) _ _ (Path.name_inj heq)

theorem length_key (k : KeptBundle) : k.key.toList.length = 64 := by
  unfold KeptBundle.key bundleKey sha256 Digest.sha256Bytes
  rw [String.toList_ofList]
  rfl

/-- The place of a draft tells the key and the process. -/
theorem draftPlace_inj (h : x.draftPlace = y.draftPlace) :
    x.kept.key = y.kept.key ∧ x.cache.process = y.cache.process := by
  rw [draftPlace_eq, draftPlace_eq] at h
  have hname := (String.append_left_inj ".tmp").mp (Path.name_inj h)
  have hchars := congrArg String.toList hname
  simp only [String.toList_append, List.append_assoc] at hchars
  obtain ⟨hkey, hrest⟩ := List.append_inj hchars ((length_key _).trans (length_key _).symm)
  have hnumber := List.append_cancel_left (List.append_cancel_left hrest)
  exact ⟨String.toList_inj.mp hkey, decimal_injective (String.toList_inj.mp hnumber)⟩

theorem targetPlace_congr (hplace : x.cache.place = y.cache.place) (h : x.kept.key = y.kept.key) :
    x.targetPlace = y.targetPlace := by
  rw [targetPlace_eq, targetPlace_eq, hplace, h]

end Call

/-! ## What a step can do -/

/-- The same files stand at a place. -/
def SameFile (d d' : Disk) (p : Place) : Prop :=
  ∀ bytes, d'.get? p = some (.file bytes) ↔ d.get? p = some (.file bytes)

theorem SameFile.refl (d : Disk) (p : Place) : SameFile d d p := fun _ => .rfl

/-- The same files stand everywhere. -/
def SameFiles (d d' : Disk) : Prop :=
  ∀ p, SameFile d d' p

instance : IsPreorder Disk SameFiles where
  refl d := .refl d
  trans _ _ _ h h' p bytes := (h' p bytes).trans (h p bytes)

/-- Folders are made where nothing stands. -/
theorem sameFiles_makeFolder (q : Path) : Leads SameFiles (makeFolder q) := by
  intro d
  rcases makeFolder_cases d q with hno | ⟨hplace, hnone⟩
  · exact hno.leads
  · intro p bytes
    rw [run_makeFolder hplace hnone]
    by_cases hp : p = []
    · subst hp
      exact .rfl
    · rw [get?_put d _ hp]
      by_cases heq : p = q.unclosed.target []
      · rw [if_pos heq, heq, hnone]
        simp
      · rw [if_neg heq]

theorem sameFiles_makeFolders (folder : Path) (d : Disk) :
    SameFiles d (d.run (makeFolders folder)).2 :=
  leads_makeFolders (sameFiles_makeFolder folder) (fun q _ => sameFiles_makeFolder q) d

theorem sameFile_put {d : Disk} {p q : Place} (h : p ≠ q) (i : Item) : SameFile d (d.put q i) p := by
  intro bytes
  by_cases hp : p = []
  · subst hp
    exact .rfl
  · rw [get?_put d i hp, if_neg h]

theorem sameFile_drop {d : Disk} {p q : Place} (h : p ≠ q) : SameFile d (d.drop q) p := by
  intro bytes
  by_cases hp : p = []
  · subst hp
    exact .rfl
  · rw [get?_drop d hp, if_neg h]

theorem sameFile_writeTo {d : Disk} {p : Place} {file : OpenFile} (h : file.place ≠ some p)
    (bytes : List UInt8) : SameFile d (d.writeTo file bytes) p := by
  unfold writeTo
  split
  · exact .refl d p
  · next q hq =>
    have hne : p ≠ q := by
      rintro rfl
      exact h hq
    split
    · exact sameFile_put hne _
    · exact .refl d p

/-- What a step of a call can do. -/
inductive Effect (call : Call) (d : Disk) : Stage → Stage × Shift × Disk → Prop
  /-- No file is touched, and none is opened. -/
  | quiet {stage stage' : Stage} {d' : Disk} (hfiles : SameFiles d d')
      (hstage : ∀ file rest, stage' ≠ .writing file rest) : Effect call d stage (stage', .still, d')
  /-- The draft is opened. -/
  | opened (hfree : d.get? call.draftPlace ≠ some .folder) :
      Effect call d .draft
        (.writing ⟨some call.draftPlace, 0⟩ call.bytes, .still, d.put call.draftPlace (.file []))
  /-- Bytes are written to an open file. -/
  | wrote (file : OpenFile) (b : UInt8) (rest : List UInt8) (piece : Nat) :
      Effect call d (.writing file (b :: rest))
        (.writing ⟨file.place, file.written + ((b :: rest).take piece).length⟩
          ((b :: rest).drop piece), .still, d.writeTo file ((b :: rest).take piece))
  /-- The draft is moved to its place. -/
  | moved (file : OpenFile) {bytes : List UInt8}
      (hget : d.get? call.draftPlace = some (.file bytes))
      (hfree : d.get? call.targetPlace ≠ some .folder) :
      Effect call d (.writing file [])
        (.ended (.ok ()), .moved call.draftPlace call.targetPlace,
          (d.drop call.draftPlace).put call.targetPlace (.file bytes))
  /-- The draft is taken away. -/
  | removed (f : DiskFault) :
      Effect call d (.discarding f)
        (.ended (.error f), .gone call.draftPlace, d.drop call.draftPlace)

theorem effect_next (call : Call) (piece : Nat) (d : Disk) (stage : Stage) :
    Effect call d stage (call.next piece d stage) := by
  cases stage with
  | folder =>
    have hfiles := sameFiles_makeFolders call.cache.folder d
    rw [Call.next]
    rcases hrun : d.run (makeFolders call.cache.folder) with ⟨f | ⟨⟨⟩⟩, d₁⟩ <;> rw [hrun] at hfiles
    · exact .quiet hfiles (by rintro _ _ ⟨⟩)
    · exact .quiet hfiles (by rintro _ _ ⟨⟩)
  | draft =>
    rw [Call.next]
    rcases create_cases d call.draft with ⟨f, hno⟩ | ⟨hlast, hplace, hfree⟩
    · rw [hno]
      exact .quiet (refl_of SameFiles d) (by rintro _ _ ⟨⟩)
    · rw [run_create hlast hplace hfree]
      exact .opened hfree
  | writing file rest =>
    cases rest with
    | nil =>
      rw [Call.next]
      rcases rename_cases d call.draft call.target with ⟨f, hno⟩ | ⟨bytes, hget, -, hfree, hrun⟩
      · rw [hno]
        exact .quiet (refl_of SameFiles d) (by rintro _ _ ⟨⟩)
      · rw [hrun]
        exact .moved file hget hfree
    | cons b rest => exact .wrote file b rest piece
  | discarding f =>
    rw [Call.next]
    rcases remove_cases d call.draft with ⟨g, hno⟩ | ⟨bytes, -, hrun⟩
    · rw [hno]
      exact .quiet (refl_of SameFiles d) (by rintro _ _ ⟨⟩)
    · rw [hrun]
      exact .removed f
  | ended result => exact .quiet (refl_of SameFiles d) (by rintro _ _ ⟨⟩)
  | lost => exact .quiet (refl_of SameFiles d) (by rintro _ _ ⟨⟩)

/-! ## The invariant -/

/-- An open file is where the bundle of its call is written to or moved to, if it is anywhere. A call
that keeps a bundle under the key has its draft open, and the draft holds what was written so far. -/
def Call.Sound (place : Place) (key : String) (call : Call) (d : Disk) (stage : Stage) : Prop :=
  call.cache.place = place ∧ ∀ file rest, stage = .writing file rest →
    (∀ p ∈ file.place, p = call.draftPlace ∨ p = call.targetPlace) ∧
    (call.kept.key = key → file.place = some call.draftPlace ∧
      d.get? call.draftPlace = some (.file (call.bytes.take file.written)) ∧
      rest = call.bytes.drop file.written)

namespace Traffic

/-- The file of the key holds all of a bundle that a call is to keep under it. -/
def Complete (place : Place) (key : String) (t : Traffic) : Prop :=
  ∀ bytes, t.disk.get? (place ++ [key ++ ".json"]) = some (.file bytes) →
    ∃ x ∈ t.begun, x.kept.key = key ∧ bytes = x.bytes

/-- No two calls of one process that keep bundles under the key are under way. -/
def Exclusive (key : String) (t : Traffic) : Prop :=
  ∀ (i j : Nat) (x y : Call × Stage), i ≠ j → t.calls[i]? = some x → t.calls[j]? = some y →
    x.1.kept.key = key → y.1.kept.key = key → x.2.UnderWay → y.2.UnderWay →
    x.1.cache.process ≠ y.1.cache.process

/-- All calls are sound, and the file of the key is complete. -/
structure Sound (place : Place) (key : String) (t : Traffic) : Prop where
  complete : t.Complete place key
  calls : ∀ x ∈ t.calls, x.1.Sound place key t.disk x.2

end Traffic

variable {place : Place} {key : String} {x y : Call} {d d' : Disk} {stage stage' : Stage}
  {shift : Shift}

namespace Call

theorem draftPlace_ne_targetPlace (x y : Call) : x.draftPlace ≠ y.targetPlace := by
  rw [targetPlace_eq]
  exact x.draftPlace_ne _ _

/-- What is no open file is where it should be. -/
theorem sound_of_closed (hplace : x.cache.place = place)
    (h : ∀ file rest, stage ≠ .writing file rest) : x.Sound place key d stage :=
  ⟨hplace, fun file rest hstage => absurd hstage (h file rest)⟩

/-- A call stays sound while the file that it has open is let alone. -/
theorem Sound.shifted {file : OpenFile} {rest : List UInt8}
    (h : y.Sound place key d (.writing file rest))
    (hpaths : ∀ p ∈ (file.shifted shift).place, p = y.draftPlace ∨ p = y.targetPlace)
    (hown : y.kept.key = key → file.shifted shift = file ∧ SameFile d d' y.draftPlace) :
    y.Sound place key d' (.writing (file.shifted shift) rest) := by
  refine ⟨h.1, ?_⟩
  rintro file' rest' ⟨⟩
  refine ⟨hpaths, fun hkey => ?_⟩
  obtain ⟨hplace, hget, hrest⟩ := (h.2 file rest rfl).2 hkey
  obtain ⟨hsame, hfiles⟩ := hown hkey
  rw [hsame]
  exact ⟨hplace, (hfiles _).mpr hget, hrest⟩

/-- A file that is taken away is open nowhere else. -/
theorem Sound.gone (h : y.Sound place key d stage) {p : Place}
    (hp : y.kept.key = key → stage.UnderWay → y.draftPlace ≠ p) :
    y.Sound place key (d.drop p) (stage.shifted (.gone p)) := by
  cases stage with
  | writing file rest =>
    obtain ⟨hpaths, hown⟩ := h.2 file rest rfl
    refine h.shifted (fun q hq => hpaths q (OpenFile.mem_place_of_gone hq)) fun hkey => ?_
    have hne := hp hkey trivial
    exact ⟨OpenFile.shifted_gone_of_ne (hown hkey).1 hne, sameFile_drop hne⟩
  | _ => exact sound_of_closed h.1 (by rintro _ _ ⟨⟩)

/-- A step of another call leaves a call sound, unless both are under way in one process to keep
bundles under the key. -/
theorem Sound.aside {stageOfOther : Stage} (h : y.Sound place key d stage)
    (hx : x.Sound place key d stageOfOther) (heffect : Effect x d stageOfOther (stage', shift, d'))
    (hother : x.kept.key = key → y.kept.key = key → stageOfOther.UnderWay → stage.UnderWay →
      x.cache.process ≠ y.cache.process) : y.Sound place key d' (stage.shifted shift) := by
  -- two calls under way for the key have drafts of their own, as they are of two processes
  have hdraft : y.kept.key = key → stageOfOther.UnderWay → stage.UnderWay →
      y.draftPlace ≠ x.draftPlace := by
    intro hkey hx hy heq
    obtain ⟨hkeys, hprocess⟩ := draftPlace_inj heq
    exact hother (hkeys.symm.trans hkey) hkey hx hy hprocess.symm
  cases heffect with
  | quiet hfiles =>
    cases stage with
    | writing file rest =>
      exact h.shifted (h.2 file rest rfl).1 fun _ => ⟨rfl, hfiles _⟩
    | _ => exact sound_of_closed h.1 (by rintro _ _ ⟨⟩)
  | opened hfree =>
    cases stage with
    | writing file rest =>
      exact h.shifted (h.2 file rest rfl).1 fun hkey =>
        ⟨rfl, sameFile_put (hdraft hkey trivial trivial) _⟩
    | _ => exact sound_of_closed h.1 (by rintro _ _ ⟨⟩)
  | wrote other b left piece =>
    cases stage with
    | writing file rest =>
      refine h.shifted (h.2 file rest rfl).1 fun hkey => ⟨rfl, sameFile_writeTo ?_ _⟩
      -- what the other call writes to stands at its draft or at its target
      intro hplace
      rcases (hx.2 other _ rfl).1 _ hplace with heq | heq
      · exact hdraft hkey trivial trivial heq
      · exact y.draftPlace_ne_targetPlace x heq
    | _ => exact sound_of_closed h.1 (by rintro _ _ ⟨⟩)
  | moved other hget hfree =>
    cases stage with
    | writing file rest =>
      obtain ⟨hpaths, hown⟩ := h.2 file rest rfl
      refine h.shifted ?_ ?_
      · intro p hp
        rcases OpenFile.mem_place_of_moved hp with ⟨hfrom, rfl⟩ | hp
        · -- the draft that is moved is that of this call, and it goes where its bundle belongs
          have hsame : x.draftPlace = y.draftPlace :=
            (hpaths _ hfrom).resolve_right (x.draftPlace_ne_targetPlace y)
          exact .inr (targetPlace_congr (hx.1.trans h.1.symm) (draftPlace_inj hsame).1)
        · exact hpaths p hp
      · intro hkey
        have hne := hdraft hkey trivial trivial
        have htarget := y.draftPlace_ne_targetPlace x
        exact ⟨OpenFile.shifted_moved_of_ne (hown hkey).1 hne htarget, fun bytes =>
          (sameFile_put htarget _ bytes).trans (sameFile_drop hne bytes)⟩
    | _ => exact sound_of_closed h.1 (by rintro _ _ ⟨⟩)
  | removed f => exact h.gone fun hkey hy => hdraft hkey trivial hy

/-- Bytes that are written behind the first ones of a text are those that come next. -/
theorem overwrite_take {bytes : List UInt8} {n : Nat} (h : n ≤ bytes.length) (piece : Nat) :
    overwrite (bytes.take n) n ((bytes.drop n).take piece) =
      bytes.take (n + ((bytes.drop n).take piece).length) := by
  have hlength : (bytes.take n).length = n := by
    rw [List.length_take]
    omega
  have hpart : (bytes.drop n).take ((bytes.drop n).take piece).length =
      (bytes.drop n).take piece := by
    rw [List.length_take, ← List.take_eq_take_min]
  have hover := overwrite_length (bytes.take n) ((bytes.drop n).take piece)
  rw [hlength] at hover
  rw [hover, List.take_add, hpart]

theorem drop_length_take (bytes : List UInt8) (n piece : Nat) :
    (bytes.drop n).drop piece = bytes.drop (n + ((bytes.drop n).take piece).length) := by
  rw [← List.drop_drop, List.length_take]
  rcases Nat.le_total piece (bytes.drop n).length with hle | hle
  · rw [Nat.min_eq_left hle]
  · rw [Nat.min_eq_right hle, List.drop_eq_nil_of_le hle, List.drop_length]

/-- A call stays sound in its own steps. -/
theorem Sound.next (h : x.Sound place key d stage)
    (heffect : Effect x d stage (stage', shift, d')) : x.Sound place key d' stage' := by
  cases heffect with
  | quiet hfiles hstage => exact sound_of_closed h.1 hstage
  | opened hfree =>
    have hget := get?_put_self d (.file []) (ne_nil_of_get? hfree)
    refine ⟨h.1, ?_⟩
    intro file rest hstage
    obtain ⟨rfl, rfl⟩ := Stage.writing.inj hstage
    refine ⟨fun p hp => .inl (Option.some.inj hp).symm, fun _ => ⟨rfl, ?_, ?_⟩⟩
    · rw [hget, List.take_zero]
    · rw [List.drop_zero]
  | wrote file b rest piece =>
    obtain ⟨hpaths, hown⟩ := h.2 file (b :: rest) rfl
    refine ⟨h.1, ?_⟩
    intro file' rest' hstage
    obtain ⟨rfl, rfl⟩ := Stage.writing.inj hstage
    refine ⟨hpaths, fun hkey => ?_⟩
    obtain ⟨hplace, hget, hrest⟩ := hown hkey
    -- there are bytes left, so no more than all were written
    have hlt : file.written ≤ x.bytes.length := by
      by_contra hlt
      rw [List.drop_eq_nil_of_le (by omega)] at hrest
      exact absurd hrest (List.cons_ne_nil b rest)
    have hwrite : d.writeTo file ((b :: rest).take piece) = d.put x.draftPlace
        (.file (overwrite (x.bytes.take file.written) file.written ((b :: rest).take piece))) := by
      rw [writeTo, hplace]
      simp only [hget]
    have hfile : d.get? x.draftPlace ≠ some .folder := by
      rw [hget]
      simp
    rw [hrest] at hwrite ⊢
    rw [hwrite, overwrite_take hlt]
    exact ⟨hplace, get?_put_self d _ (ne_nil_of_get? hfile), drop_length_take _ _ _⟩
  | moved file hget hfree => exact sound_of_closed h.1 (by rintro _ _ ⟨⟩)
  | removed f => exact sound_of_closed h.1 (by rintro _ _ ⟨⟩)

/-- A step of a call puts no file where a bundle belongs but its own bundle, all of it. -/
theorem Sound.target (h : x.Sound place key d stage)
    (heffect : Effect x d stage (stage', shift, d')) {bytes : List UInt8}
    (hget : d'.get? (place ++ [key ++ ".json"]) = some (.file bytes)) :
    d.get? (place ++ [key ++ ".json"]) = some (.file bytes) ∨
      x.kept.key = key ∧ bytes = x.bytes := by
  have hdraft : place ++ [key ++ ".json"] ≠ x.draftPlace := (x.draftPlace_ne place key).symm
  have htarget : place ++ [key ++ ".json"] = x.targetPlace → x.kept.key = key := by
    rw [targetPlace_eq]
    intro heq
    exact ((String.append_left_inj ".json").mp (Path.name_inj heq)).symm
  cases heffect with
  | quiet hfiles => exact .inl ((hfiles _ bytes).mp hget)
  | opened hfree => exact .inl ((sameFile_put hdraft _ bytes).mp hget)
  | wrote file b rest piece =>
    obtain ⟨hpaths, hown⟩ := h.2 file (b :: rest) rfl
    refine .inl ((sameFile_writeTo ?_ _ bytes).mp hget)
    intro hplace
    -- as long as a call writes for the key, its file stands at its draft
    rcases hpaths _ hplace with heq | heq
    · exact hdraft heq
    · obtain ⟨hdraftPlace, -⟩ := hown (htarget heq)
      exact hdraft (Option.some.inj (hplace.symm.trans hdraftPlace))
  | moved file hread hfree =>
    by_cases heq : place ++ [key ++ ".json"] = x.targetPlace
    · obtain ⟨-, hwritten, hrest⟩ := (h.2 file [] rfl).2 (htarget heq)
      rw [heq, get?_put_self _ _ (ne_nil_of_get? hfree)] at hget
      -- the draft is moved once nothing is left to write
      obtain rfl := Item.file.inj (Option.some.inj hget)
      obtain rfl := Item.file.inj (Option.some.inj (hread.symm.trans hwritten))
      have hall := List.take_append_drop file.written x.bytes
      rw [← hrest, List.append_nil] at hall
      exact .inr ⟨htarget heq, hall⟩
    · have hput := (sameFile_put heq _ bytes).mp hget
      exact .inl ((sameFile_drop hdraft bytes).mp hput)
  | removed f => exact .inl ((sameFile_drop hdraft bytes).mp hget)

end Call

namespace Traffic

variable {t t' : Traffic}

theorem Sound.advance (h : t.Sound place key) (hexclusive : t.Exclusive key) (i piece : Nat) :
    (t.advance i piece).Sound place key := by
  cases hi : t.calls[i]? with
  | none => rwa [advance_of_none hi]
  | some c =>
    obtain ⟨x, stage⟩ := c
    have hx := h.calls _ (List.mem_of_getElem? hi)
    have heffect := effect_next x piece t.disk stage
    have hbegun := begun_advance t i piece
    rw [advance_of_some hi] at hbegun ⊢
    refine ⟨?_, ?_⟩
    · intro bytes hget
      rw [hbegun]
      rcases hx.target heffect hget with hget | ⟨hkey, hbytes⟩
      · exact h.complete bytes hget
      · exact ⟨x, List.mem_map_of_mem (List.mem_of_getElem? hi), hkey, hbytes⟩
    · intro c hc
      obtain ⟨j, hj⟩ := List.mem_iff_getElem?.mp hc
      rw [List.getElem?_set] at hj
      by_cases hij : i = j
      · -- the call that took the step
        rw [if_pos hij] at hj
        split at hj
        · obtain rfl := Option.some.inj hj
          exact hx.next heffect
        · exact absurd hj (by simp)
      · -- another call
        rw [if_neg hij, getElem?_shifted] at hj
        obtain ⟨⟨y, stageOfY⟩, hy, rfl⟩ := Option.map_eq_some_iff.mp hj
        have hsound := h.calls _ (List.mem_of_getElem? hy)
        exact hsound.aside hx heffect (hexclusive i j _ _ hij hi hy)

theorem Sound.begin {call : Call} (h : t.Sound place key) (hplace : call.cache.place = place) :
    (t.begin call).Sound place key := by
  refine ⟨?_, ?_⟩
  · intro bytes hget
    obtain ⟨x, hx, hkey, hbytes⟩ := h.complete bytes hget
    rw [begun_begin]
    exact ⟨x, List.mem_append_left _ hx, hkey, hbytes⟩
  · intro c hc
    rcases List.mem_append.mp hc with hc | hc
    · exact h.calls c hc
    · obtain rfl := List.mem_singleton.mp hc
      exact Call.sound_of_closed hplace (by rintro _ _ ⟨⟩)

/-- A call that is broken off leaves its draft as it is. -/
theorem Sound.lose (h : t.Sound place key) (i : Nat) : (t.lose i).Sound place key := by
  refine ⟨?_, ?_⟩
  · intro bytes hget
    rw [begun_lose]
    exact h.complete bytes hget
  · intro c hc
    obtain ⟨j, hj⟩ := List.mem_iff_getElem?.mp hc
    rw [Traffic.lose, List.getElem?_modify] at hj
    obtain ⟨y, hy, rfl⟩ := Option.map_eq_some_iff.mp hj
    have hsound := h.calls y (List.mem_of_getElem? hy)
    by_cases hij : i = j
    · rw [if_pos hij]
      exact Call.sound_of_closed hsound.1 (by rintro _ _ ⟨⟩)
    · rw [if_neg hij]
      exact hsound

/-- No draft has the name of a bundle, so all drafts stay when a bundle is taken away. -/
theorem Sound.takeAway (h : t.Sound place key) (sourceId content : String) :
    (t.takeAway (place ++ [bundleName sourceId content])).Sound place key := by
  refine ⟨?_, ?_⟩
  · intro bytes hget
    rw [Traffic.takeAway, get?_drop _ (ne_nil_of_file hget)] at hget
    rw [Traffic.takeAway, begun, begun_shifted]
    split at hget
    · exact absurd hget (by simp)
    · exact h.complete bytes hget
  · intro c hc
    obtain ⟨⟨y, stage⟩, hy, rfl⟩ := List.mem_map.mp hc
    exact (h.calls _ hy).gone fun _ _ => y.draftPlace_ne place _

/-- All drafts and bundles lie in the folder of the caches. -/
theorem Sound.elsewhere {d : Disk} (h : t.Sound place key)
    (hsame : ∀ name, d.get? (place ++ [name]) = t.disk.get? (place ++ [name])) :
    Sound place key { t with disk := d } := by
  refine ⟨?_, ?_⟩
  · intro bytes hget
    exact h.complete bytes ((hsame _).symm.trans hget)
  · intro c hc
    obtain ⟨hplace, hcall⟩ := h.calls c hc
    refine ⟨hplace, ?_⟩
    intro file rest hstage
    obtain ⟨hpaths, hown⟩ := hcall file rest hstage
    refine ⟨hpaths, fun hkey => ?_⟩
    obtain ⟨hfile, hget, hrest⟩ := hown hkey
    refine ⟨hfile, ?_, hrest⟩
    rw [← hget, c.1.draftPlace_eq, hplace]
    exact hsame _

/-- Every step leaves all calls sound and the file of the key complete. -/
theorem Sound.step (h : t.Sound place key) (hexclusive : t.Exclusive key)
    (hstep : Step place t t') : t'.Sound place key := by
  cases hstep with
  | begin call hplace => exact h.begin hplace
  | advance i piece => exact h.advance hexclusive i piece
  | lose i => exact h.lose i
  | takeAway sourceId content hfile => exact h.takeAway sourceId content
  | elsewhere d hsame => exact h.elsewhere hsame

/-- No call is under way, and all calls so far were on caches of the place. -/
def Resting (place : Place) (t : Traffic) : Prop :=
  ∀ x ∈ t.calls, x.1.cache.place = place ∧ ¬ x.2.UnderWay

theorem Resting.sound (h : t.Resting place) (hcomplete : t.Complete place key) :
    t.Sound place key := by
  refine ⟨hcomplete, ?_⟩
  rintro ⟨x, stage⟩ hx
  obtain ⟨hplace, hresting⟩ := h _ hx
  refine Call.sound_of_closed hplace ?_
  rintro file rest rfl
  exact hresting trivial

/-- The file of a key stays complete as long as no two calls of one process keep bundles under it at
a time. -/
theorem Reaches.sound {t₀ : Traffic} (h : Reaches place (Exclusive key) t₀ t)
    (hstart : t₀.Sound place key) : t.Sound place key ∧ t.Exclusive key := by
  induction h with
  | start hrule => exact ⟨hstart, hrule⟩
  | step _ hstep hrule ih => exact ⟨ih.1.step ih.2 hstep, hrule⟩

/-- Between any two steps, whoever reads the file of an app finds none or all bytes of a bundle that
some call was to keep under its key, so no bundle is ever found to be corrupt. -/
theorem Reaches.find_complete {t₀ : Traffic} {c : Cache} {sourceId content : String}
    (hresting : t₀.Resting c.place)
    (hcomplete : t₀.Complete c.place (bundleKey sourceId content))
    (h : Reaches c.place (Exclusive (bundleKey sourceId content)) t₀ t) :
    (t.disk.Refuses (readBytes (c.bundlePath sourceId content)) ∨
      ∃ x ∈ t.begun, x.kept.key = bundleKey sourceId content ∧
        t.disk.run (readBytes (c.bundlePath sourceId content)) = (.ok x.bytes, t.disk)) ∧
    ∀ version message,
      ((c.find sourceId content version).run t.disk).1 ≠ .miss (.corrupt message) := by
  have hsound := (h.sound (hresting.sound hcomplete)).1
  have htarget := c.target_bundlePath sourceId content
  rcases readBytes_cases t.disk (c.bundlePath sourceId content) with hno | ⟨bytes, hplace, hget⟩
  · refine ⟨.inl hno, ?_⟩
    intro version message
    obtain ⟨f, hrun⟩ := hno.readText
    rw [c.run_find, hrun]
    cases f <;> simp
  · have hread := run_readBytes hplace hget
    rw [htarget] at hget
    obtain ⟨x, hx, hkey, hbytes⟩ := hsound.complete bytes hget
    rw [hbytes] at hread hget
    refine ⟨.inr ⟨x, hx, hkey, hread⟩, ?_⟩
    intro version message
    have hdecoded := (CachedBundle.readText_bundleText x.kept.entry x.kept.entry).mpr ⟨x.fits, rfl⟩
    rw [← htarget] at hget
    rw [c.run_find, run_readText hplace hget (decode?_encode _)]
    simp only [hdecoded, Cache.validate]
    split_ifs <;> simp

/-- Turns of calls, one after the other: which call, and how many bytes it may write. -/
def turns (t : Traffic) (is : List (Nat × Nat)) : Traffic :=
  is.foldl (fun t (i, piece) => t.advance i piece) t

theorem Reaches.turns {Rule : Traffic → Prop} {t₀ : Traffic} (h : Reaches place Rule t₀ t)
    (hrule : ∀ t', t'.begun = t.begun → Rule t') (is : List (Nat × Nat)) :
    Reaches place Rule t₀ (t.turns is) := by
  induction is generalizing t with
  | nil => exact h
  | cons i is ih =>
    have hbegun := begun_advance t i.1 i.2
    refine ih (h.step (.advance i.1 i.2) (hrule _ hbegun)) ?_
    intro t' ht'
    exact hrule t' (ht'.trans hbegun)

/-- Calls of different processes have their drafts for themselves. -/
theorem exclusive_of_nodup (h : (t.begun.map (·.cache.process)).Nodup) : t.Exclusive key := by
  intro i j x y hij hx hy _ _ _ _ heq
  have hprocess : ∀ (k : Nat) (z : Call × Stage), t.calls[k]? = some z →
      (t.begun.map (·.cache.process))[k]? = some z.1.cache.process := by
    intro k z hz
    rw [begun, List.getElem?_map, List.getElem?_map, hz]
    rfl
  have hi := hprocess i x hx
  have hlt := (List.getElem?_eq_some_iff.mp hi).1
  have hj := hprocess j y hy
  rw [← heq, ← hi] at hj
  exact hij ((List.getElem?_inj hlt h).mp hj.symm)

end Traffic

/-! ## Two calls for one app file -/

/-- A call that keeps a small bundle. -/
def smallCall (process : Nat) (code : String) : Call :=
  ⟨⟨["cache"], process⟩, smallBundle "app" "s" code, fits_smallBundle "app" "s" code⟩

/-- An empty cache that nothing uses. -/
def idleShelf : Traffic :=
  ⟨bareShelf, []⟩

/-- One call writes its draft, another one opens its own, and the first one moves what it wrote. -/
def sideBySide (process : Nat) : Traffic :=
  ((idleShelf.begin (smallCall 1 "1")).begin (smallCall process "2")).turns
    [(0, 0), (1, 0), (0, 0), (0, 1000), (1, 0), (0, 0)]

theorem reaches_sideBySide {Rule : Traffic → Prop} (process : Nat)
    (hrule : ∀ t, t.begun <+: [smallCall 1 "1", smallCall process "2"] → Rule t) :
    Traffic.Reaches ["cache"] Rule idleShelf (sideBySide process) := by
  have hplace : ∀ process code, (smallCall process code).cache.place = ["cache"] := by
    intro process code
    exact (by decide : Path.target [] ["cache"] = ["cache"])
  have hstart : Traffic.Reaches ["cache"] Rule idleShelf idleShelf :=
    .start (hrule _ List.nil_prefix)
  have hfirst := hstart.step (.begin (smallCall 1 "1") (hplace 1 "1")) (hrule _ ⟨[_], rfl⟩)
  have hsecond := hfirst.step (.begin (smallCall process "2") (hplace process "2"))
    (hrule _ (List.prefix_refl _))
  refine hsecond.turns ?_ _
  intro t ht
  exact hrule t (ht ▸ List.prefix_refl _)

theorem place_shelf : shelf.place = ["cache"] := by
  decide

theorem resting_idleShelf (place : Place) : idleShelf.Resting place :=
  fun _ hx => absurd hx List.not_mem_nil

theorem complete_idleShelf (key : String) : idleShelf.Complete ["cache"] key := by
  have hempty : ∀ name, bareShelf.get? (["cache"] ++ [name]) = none := by simp [bareShelf, get?]
  intro bytes hget
  exact absurd (hget.symm.trans (hempty _)) (by simp)

/-- In two processes the bundle that was moved is all there, although the other call has its draft
open. -/
theorem sideBySide_complete :
    idleShelf.Resting shelf.place ∧ idleShelf.Complete shelf.place (bundleKey "app" "s") ∧
      Traffic.Reaches shelf.place (Traffic.Exclusive (bundleKey "app" "s")) idleShelf
        (sideBySide 2) ∧
      (sideBySide 2).disk.get? (shelf.place ++ [bundleName "app" "s"]) =
        some (.file (smallCall 1 "1").bytes) ∧
      ∀ version message, ((shelf.find "app" "s" version).run (sideBySide 2).disk).1 ≠
        .miss (.corrupt message) := by
  have hresting := resting_idleShelf shelf.place
  have hcomplete : idleShelf.Complete shelf.place (bundleKey "app" "s") := by
    rw [place_shelf]
    exact complete_idleShelf _
  have hreaches : Traffic.Reaches shelf.place (Traffic.Exclusive (bundleKey "app" "s")) idleShelf
      (sideBySide 2) := by
    rw [place_shelf]
    refine reaches_sideBySide 2 fun t ht => Traffic.exclusive_of_nodup ?_
    exact (ht.sublist.map _).nodup (show [1, 2].Nodup by decide)
  have hfile : (sideBySide 2).disk.get? (shelf.place ++ [bundleName "app" "s"]) =
      some (.file (smallCall 1 "1").bytes) := by
    decide +kernel
  exact ⟨hresting, hcomplete, hreaches, hfile,
    (Traffic.Reaches.find_complete hresting hcomplete hreaches).2⟩

/-- In one process the second call empties the draft that the first one moves. The bundle is then
found to be corrupt, although no file was but complete at first. -/
theorem shared_draft_exposed :
    idleShelf.Resting ["cache"] ∧ (∀ key, idleShelf.Complete ["cache"] key) ∧
      Traffic.Reaches ["cache"] (fun _ => True) idleShelf (sideBySide 1) ∧
      (sideBySide 1).disk.get? (["cache"] ++ [bundleName "app" "s"]) = some (.file []) ∧
      ((shelf.find "app" "s" "1").run (sideBySide 1).disk).1 =
        .miss (.corrupt "EOF while parsing a value") := by
  have htarget := shelf.target_bundlePath "app" "s"
  obtain ⟨hfile, hplace⟩ : (sideBySide 1).disk.get? (["cache"] ++ [bundleName "app" "s"]) =
        some (.file []) ∧
      (sideBySide 1).disk.place (shelf.bundlePath "app" "s") =
        .ok ((shelf.bundlePath "app" "s").target []) := by
    decide +kernel
  have hget : (sideBySide 1).disk.get? ((shelf.bundlePath "app" "s").target []) =
      some (.file []) := by
    rw [htarget, place_shelf, hfile]
  have hempty : decode? [] = some "" := decode?_encode ""
  have hfault : CachedBundle.decoder.readText "" = .error (.fault .endOfValue) := rfl
  refine ⟨resting_idleShelf _, complete_idleShelf, reaches_sideBySide 1 fun _ _ => trivial,
    hfile, ?_⟩
  rw [shelf.run_find, run_readText hplace hget hempty]
  simp only [hfault]
  rfl

end AppBundle
