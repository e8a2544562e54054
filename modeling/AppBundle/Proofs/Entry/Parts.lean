import AppBundle.Generated.Entry
import Mathlib.Tactic.Common

/-!
# What an entry is made of

The scripts that are loaded with an app and those that run at fixed moments are the scripts of the
app by kind, in order and each once. The handlers that are generated are those that are the first
with their names.
-/

namespace AppBundle

/-! ## Scripts -/

theorem map_script_numberLoaded (i j : Nat) (ss : List Script) :
    (numberLoaded i j ss).map (·.script) = ss := by
  induction ss generalizing i j with
  | nil => rfl
  | cons s ss ih =>
    rw [numberLoaded]
    split
    · rw [List.map_cons, ih]
    · rw [List.map_cons, ih]

theorem map_script_numberMoments (i j : Nat) (ss : List Script) :
    (numberMoments i j ss).map (·.script) = ss.filter (·.kind ≠ .sync) := by
  induction ss generalizing i j with
  | nil => rfl
  | cons s ss ih =>
    rw [numberMoments]
    split
    · next hk => rw [ih, List.filter_cons_of_neg (by simp [hk])]
    · next hk => rw [List.map_cons, ih, List.filter_cons_of_pos (by simp [hk])]
    · next hk => rw [List.map_cons, ih, List.filter_cons_of_pos (by simp [hk])]

theorem App.map_script_loaded (a : App) : a.loaded.map (·.script) = a.scriptsOf .sync :=
  map_script_numberLoaded 0 0 _

theorem App.map_script_moments (a : App) :
    a.moments.map (·.script) = a.scripts.filter (·.kind ≠ .sync) :=
  map_script_numberMoments 0 0 _

/-- The scripts that run at one of the fixed moments. -/
theorem App.map_script_filter_moments (a : App) {kind : Timing} (hk : kind ≠ .sync) :
    (a.moments.filter (·.script.kind = kind)).map (·.script) = a.scriptsOf kind := by
  have hfilter := congrArg (List.filter (·.kind = kind)) a.map_script_moments
  rw [List.filter_map, List.filter_filter] at hfilter
  refine hfilter.trans (List.filter_congr fun s _ => ?_)
  by_cases hs : s.kind = kind
  · simp [hs, hk]
  · simp [hs]

theorem App.script_mem_of_mem_loaded {a : App} {l : LoadedScript} (hl : l ∈ a.loaded) :
    l.script ∈ a.scripts := by
  have hmem : l.script ∈ a.scriptsOf .sync := by
    rw [← a.map_script_loaded]
    exact List.mem_map_of_mem hl
  exact (List.mem_filter.mp hmem).1

theorem App.script_mem_of_mem_moments {a : App} {m : MomentScript} (hm : m ∈ a.moments) :
    m.script ∈ a.scripts := by
  have hmem : m.script ∈ a.scripts.filter (·.kind ≠ .sync) := by
    rw [← a.map_script_moments]
    exact List.mem_map_of_mem hm
  exact (List.mem_filter.mp hmem).1

/-! ## Numbers of scripts -/

/-- Scripts that are loaded are numbered in their order, those kept in the app file a second time
among themselves. -/
theorem getElem?_numberLoaded (i j : Nat) (ss : List Script) (n : Nat) :
    (numberLoaded i j ss)[n]? = ss[n]?.map fun s => ⟨s, i + n,
      if s.reference = none then some (j + (ss.take n).countP (·.reference = none)) else none⟩ := by
  induction ss generalizing i j n with
  | nil => rfl
  | cons s ss ih =>
    rw [numberLoaded]
    cases n with
    | zero => cases hr : s.reference <;> simp [hr]
    | succ n =>
      cases hr : s.reference with
      | none => simp [ih, hr, Nat.add_assoc, Nat.add_comm 1]
      | some r => simp [ih, hr, Nat.add_assoc, Nat.add_comm 1]

namespace App

variable (a : App)

/-- The number of scripts kept in the app file among those that are loaded before the `n`-th. -/
def inlineBefore (n : Nat) : Nat :=
  ((a.scriptsOf .sync).take n).countP (·.reference = none)

theorem loaded_eq_mapIdx :
    a.loaded = (a.scriptsOf .sync).mapIdx fun n s =>
      ⟨s, n, if s.reference = none then some (a.inlineBefore n) else none⟩ := by
  refine List.ext_getElem? fun n => ?_
  rw [loaded, getElem?_numberLoaded, List.getElem?_mapIdx]
  simp only [Nat.zero_add, inlineBefore]

end App

/-- Scripts, each with the number of scripts of its kind in front of it, where some stand in front
of all. -/
def ordinalsFrom (before : List Script) (ss : List Script) : List (Script × Nat) :=
  ss.mapIdx fun n s => (s, (before ++ ss.take n).countP (·.kind = s.kind))

theorem ordinalsFrom_cons (before : List Script) (s : Script) (ss : List Script) :
    ordinalsFrom before (s :: ss) =
      (s, before.countP (·.kind = s.kind)) :: ordinalsFrom (before ++ [s]) ss := by
  simp [ordinalsFrom, List.mapIdx_cons]

/-- Among scripts of one kind, the numbers are their places. -/
theorem filter_ordinalsFrom (before ss : List Script) (kind : Timing) :
    (ordinalsFrom before ss).filter (·.1.kind = kind) =
      (ss.filter (·.kind = kind)).mapIdx fun n s => (s, before.countP (·.kind = kind) + n) := by
  induction ss generalizing before with
  | nil => rfl
  | cons s ss ih =>
    rw [ordinalsFrom_cons]
    by_cases hk : s.kind = kind
    · simp [hk, ih, List.mapIdx_cons, Nat.add_assoc, Nat.add_comm 1]
    · simp [hk, ih]

/-- Scripts that run at fixed moments are numbered among those of their kind. -/
theorem numberMoments_eq_ordinalsFrom (before ss : List Script) :
    numberMoments (before.countP (·.kind = .init)) (before.countP (·.kind = .ready)) ss =
      ((ordinalsFrom before ss).filter (·.1.kind ≠ .sync)).map fun (s, n) => ⟨s, n⟩ := by
  induction ss generalizing before with
  | nil => rfl
  | cons s ss ih =>
    have hnext := ih (before ++ [s])
    rw [ordinalsFrom_cons, numberMoments]
    cases hk : s.kind with
    | sync => simpa [hk] using hnext
    | init => simpa [hk] using hnext
    | ready => simpa [hk] using hnext

namespace App

variable (a : App)

/-- The scripts of an app, each with its number among those of its kind. -/
def ordinals : List (Script × Nat) := ordinalsFrom [] a.scripts

theorem filter_ordinals (kind : Timing) :
    a.ordinals.filter (·.1.kind = kind) = (a.scriptsOf kind).mapIdx fun n s => (s, n) := by
  simpa [ordinals, scriptsOf] using filter_ordinalsFrom [] a.scripts kind

theorem moments_eq_ordinals :
    a.moments = (a.ordinals.filter (·.1.kind ≠ .sync)).map fun (s, n) => ⟨s, n⟩ :=
  numberMoments_eq_ordinalsFrom [] a.scripts

theorem script_mem_of_mem_ordinals {a : App} {s : Script} {n : Nat} (hs : (s, n) ∈ a.ordinals) :
    s ∈ a.scripts := by
  obtain ⟨i, hi, heq⟩ := List.mem_mapIdx.mp hs
  exact (Prod.mk.inj heq).1 ▸ List.getElem_mem hi

/-- The scripts that run at one of the fixed moments, in their order. -/
theorem filter_moments_eq_mapIdx {kind : Timing} (hk : kind ≠ .sync) :
    a.moments.filter (·.script.kind = kind) =
      (a.scriptsOf kind).mapIdx fun n s => ⟨s, n⟩ := by
  have hmap : ((a.scriptsOf kind).mapIdx fun n s => (⟨s, n⟩ : MomentScript)) =
      (a.ordinals.filter (·.1.kind = kind)).map fun (s, n) => ⟨s, n⟩ := by
    rw [filter_ordinals]
    simp [List.mapIdx_eq_zipIdx_map]
  rw [moments_eq_ordinals, List.filter_map, List.filter_filter, hmap]
  refine congrArg _ (List.filter_congr fun p _ => ?_)
  by_cases hp : p.1.kind = kind
  · simp [hp, hk]
  · simp [hp]

end App

/-! ## Handlers -/

variable {h : Handler} {seen : List String} {hs : List Handler}

theorem firstHandlers_sublist (seen : List String) (hs : List Handler) :
    (firstHandlers seen hs).Sublist hs := by
  induction hs generalizing seen with
  | nil => exact .slnil
  | cons x hs ih =>
    rw [firstHandlers]
    split
    · exact (ih seen).cons x
    · exact (ih _).cons_cons x

/-- Handlers are generated if none before them has their name. -/
theorem mem_firstHandlers :
    h ∈ firstHandlers seen hs ↔
      h.id ∉ seen ∧ ∃ before after, hs = before ++ h :: after ∧ ∀ b ∈ before, b.id ≠ h.id := by
  induction hs generalizing seen with
  | nil => simp [firstHandlers]
  | cons x hs ih =>
    -- the first handler is the one looked for, or it stands before it
    have hsplit : (∃ before after, x :: hs = before ++ h :: after ∧ ∀ b ∈ before, b.id ≠ h.id) ↔
        h = x ∨ x.id ≠ h.id ∧
          ∃ before after, hs = before ++ h :: after ∧ ∀ b ∈ before, b.id ≠ h.id := by
      constructor
      · rintro ⟨before, after, heq, hb⟩
        cases before with
        | nil =>
          obtain ⟨rfl, -⟩ := List.cons.inj heq
          exact .inl rfl
        | cons b before =>
          obtain ⟨rfl, rfl⟩ := List.cons.inj heq
          exact .inr ⟨hb _ (by simp), before, after, rfl, fun c hc => hb c (by simp [hc])⟩
      · rintro (rfl | ⟨hx, before, after, rfl, hb⟩)
        · exact ⟨[], hs, rfl, by simp⟩
        · refine ⟨x :: before, after, rfl, fun b hmem => ?_⟩
          rcases List.mem_cons.mp hmem with rfl | hmem
          · exact hx
          · exact hb b hmem
    rw [firstHandlers, hsplit]
    split
    · next hseen =>
      rw [ih]
      constructor
      · rintro ⟨hnot, hex⟩
        exact ⟨hnot, .inr ⟨fun e => hnot (e ▸ hseen), hex⟩⟩
      · rintro ⟨hnot, rfl | ⟨-, hex⟩⟩
        · exact absurd hseen hnot
        · exact ⟨hnot, hex⟩
    · next hseen =>
      rw [List.mem_cons, ih, List.mem_cons, not_or]
      constructor
      · rintro (rfl | ⟨⟨hx, hnot⟩, hex⟩)
        · exact ⟨hseen, .inl rfl⟩
        · exact ⟨hnot, .inr ⟨Ne.symm hx, hex⟩⟩
      · rintro ⟨hnot, rfl | ⟨hx, hex⟩⟩
        · exact .inl rfl
        · exact .inr ⟨⟨Ne.symm hx, hnot⟩, hex⟩

theorem nodup_firstHandlers (seen : List String) (hs : List Handler) :
    ((firstHandlers seen hs).map (·.id)).Nodup := by
  induction hs generalizing seen with
  | nil => exact .nil
  | cons x hs ih =>
    rw [firstHandlers]
    split
    · exact ih seen
    · rw [List.map_cons, List.nodup_cons]
      refine ⟨fun hmem => ?_, ih _⟩
      obtain ⟨y, hy, heq⟩ := List.mem_map.mp hmem
      exact (mem_firstHandlers.mp hy).1 (heq ▸ List.mem_cons_self)

/-- Handlers with names of their own are all generated. -/
theorem firstHandlers_eq_self (hnodup : (hs.map (·.id)).Nodup) (hseen : ∀ h ∈ hs, h.id ∉ seen) :
    firstHandlers seen hs = hs := by
  induction hs generalizing seen with
  | nil => rfl
  | cons x hs ih =>
    rw [List.map_cons, List.nodup_cons] at hnodup
    rw [firstHandlers, if_neg (hseen x (by simp)), ih hnodup.2]
    intro y hy
    rw [List.mem_cons, not_or]
    exact ⟨fun e => hnodup.1 (e ▸ List.mem_map_of_mem hy), hseen y (by simp [hy])⟩

/-- The lines of a body are those of the code. -/
theorem Handler.map_text_bodyFrom (h : Handler) (line : Nat) (texts : List String) :
    (h.bodyFrom line texts).map (·.text) = texts := by
  induction texts generalizing line with
  | nil => rfl
  | cons t texts ih => rw [Handler.bodyFrom, List.map_cons, ih]

/-- The code of a handler as it stands in the entry. -/
def Handler.body (h : Handler) : List Char :=
  Text.trimRight (· = '\n') (Text.unifyFeeds h.code.toList)

theorem Handler.map_toList_bodyLines (h : Handler) :
    h.bodyLines.map String.toList = Text.pieces h.body := by
  rw [bodyLines, List.map_map, withFeeds, String.toList_ofList, body]
  exact List.map_id'' (fun _ => String.toList_ofList) _

end AppBundle
