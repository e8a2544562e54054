import AppBundle.Json.Shape
import AppBundle.Proofs.Json.Text

/-!
# Reading values of a given shape back

A decoder *reads back* a way of writing values: the text of a value gives the value itself if its
numbers are within bounds, and nothing else (`Decoder.Reads`). This is kept by everything that
decoders are made of. A record is read back if its fields are, whichever of them are left out
because they have their defaults (`Shape.Reads`).
-/

namespace AppBundle.Json

open AppBundle.Text

variable {α β : Type}

/-- Values written by `f` are read back, those that are `ok`; from the text of any other nothing is
read. -/
structure Decoder.Reads (d : Decoder α) (f : α → Value) (ok : α → Prop) : Prop where
  /-- What is written is all that is read. -/
  read : ∀ a b, d .text (Draft.written (f a)) = .ok b ↔ ok a ∧ b = a

namespace Decoder

/-- It is enough to know each text and each bound in another form. -/
theorem Reads.congr {d : Decoder α} {f f' : α → Value} {ok ok' : α → Prop} (h : Reads d f ok)
    (hf : ∀ a, f' a = f a) (hok : ∀ a, ok' a ↔ ok a) : Reads d f' ok' where
  read a b := by
    rw [hf, hok]
    exact h.read a b

theorem mismatch_ne_ok (d : Draft) (expected : String) (a : α) : d.mismatch expected ≠ .ok a := by
  unfold Draft.mismatch
  split <;> simp

theorem reads_string : Reads string .string fun _ => True where
  read s t := by
    show Except.ok s = .ok t ↔ _
    rw [true_and, Except.ok.injEq, eq_comm]

/-- A whole number without a sign is read back within its bound. -/
theorem read_whole_nat (high : Nat) (hhigh : high ≤ maxWord64) (expected : String) (n : Nat)
    (i : Int) :
    whole 0 high expected .text (Draft.written (.nat n)) = .ok i ↔ n ≤ high ∧ i = n := by
  have hwritten : Draft.written (.nat n) = .number (.ofWhole false n) := by
    have hn : ¬ (n : Int) < 0 := by omega
    simp [Value.nat, Draft.written, Number.written, hn]
  rw [hwritten, Number.ofWhole]
  by_cases hn : n ≤ maxWord64
  · simp only [Bool.false_eq_true, if_false, hn, if_true, whole]
    by_cases hle : n ≤ high
    · rw [if_pos ⟨Int.natCast_nonneg n, by exact_mod_cast hle⟩, Except.ok.injEq, eq_comm]
      exact (and_iff_right hle).symm
    · rw [if_neg (by rintro ⟨-, h⟩; exact hle (by exact_mod_cast h))]
      exact ⟨fun h => absurd h (by simp), fun h => absurd h.1 hle⟩
  · simp only [Bool.false_eq_true, if_false, hn, whole]
    exact ⟨fun h => absurd h (mismatch_ne_ok _ _ _), fun h => absurd (Nat.le_trans h.1 hhigh) hn⟩

theorem reads_word32 : Reads word32 .nat (· ≤ maxWord32) where
  read n m := by
    show Except.map Int.toNat _ = .ok m ↔ _
    rw [map_eq_ok]
    constructor
    · rintro ⟨i, hi, rfl⟩
      obtain ⟨hle, rfl⟩ := (read_whole_nat maxWord32 (by decide) "u32" n i).mp hi
      exact ⟨hle, rfl⟩
    · rintro ⟨hle, rfl⟩
      exact ⟨m, (read_whole_nat maxWord32 (by decide) "u32" m m).mpr ⟨hle, rfl⟩, rfl⟩

theorem reads_signed64 :
    Reads signed64 .int fun i => Number.minSigned64 ≤ i ∧ i ≤ Number.maxSigned64 where
  read i j := by
    show whole _ _ _ .text (.number (.ofWhole (i < 0) i.natAbs)) = .ok j ↔ _
    have hmin : Number.minSigned64 = -9223372036854775808 := rfl
    have hmax : Number.maxSigned64 = 9223372036854775807 := rfl
    have hword : maxWord64 = 18446744073709551615 := rfl
    have hdecimal : ∀ (negative : Bool) (n : Nat) (p : Int),
        ¬ whole Number.minSigned64 Number.maxSigned64 "i64" .text
          (.number (.decimal negative n p)) = .ok j := fun _ _ _ => mismatch_ne_ok _ _ _
    have hinteger : ∀ k : Int, k = i →
        (whole Number.minSigned64 Number.maxSigned64 "i64" .text (.number (.integer k)) = .ok j ↔
          (Number.minSigned64 ≤ i ∧ i ≤ Number.maxSigned64) ∧ j = i) := by
      rintro k rfl
      simp only [whole]
      split
      · next hk => rw [Except.ok.injEq, eq_comm]; exact (and_iff_right hk).symm
      · next hk => exact ⟨fun h => absurd h (by simp), fun h => absurd h.1 hk⟩
    by_cases hi : i < 0
    · simp only [hi, decide_true, Number.ofWhole, if_true]
      split
      · refine ⟨fun h => absurd h (hdecimal _ _ _), fun h => ?_⟩
        omega
      · exact hinteger _ (by omega)
    · simp only [hi, decide_false, Number.ofWhole, Bool.false_eq_true, if_false]
      split
      · exact hinteger _ (by omega)
      · refine ⟨fun h => absurd h (hdecimal _ _ _), fun h => ?_⟩
        omega

/-- A value that may be absent is read back if a value that is there is never written as absent. -/
theorem Reads.optional {d : Decoder α} {f : α → Value} {ok : α → Prop} (h : Reads d f ok)
    (hnull : ∀ a, f a ≠ .null) :
    Reads (optional d) (Value.optional f) fun o => ∀ a ∈ o, ok a where
  read o b := by
    cases o with
    | none =>
      show Except.ok none = .ok b ↔ _
      simp [eq_comm]
    | some a =>
      have hdraft : Draft.written (f a) ≠ .null := by
        cases hf : f a with
        | null => exact absurd hf (hnull a)
        | _ => simp [Draft.written]
      -- the draft of a value is not that of an absent one
      have hread : Decoder.optional d .text (Draft.written (f a)) =
          (d .text (Draft.written (f a))).map some := by
        unfold Decoder.optional
        split
        · next heq => exact absurd heq hdraft
        · rfl
      show Decoder.optional d .text (Draft.written (f a)) = .ok b ↔ _
      rw [hread, map_eq_ok]
      constructor
      · rintro ⟨c, hc, rfl⟩
        obtain ⟨hok, rfl⟩ := (h.read a c).mp hc
        exact ⟨by simpa using hok, rfl⟩
      · rintro ⟨hok, rfl⟩
        exact ⟨a, (h.read a a).mpr ⟨by simpa using hok, rfl⟩, rfl⟩

/-- A list is read back item by item. -/
theorem Reads.list {d : Decoder α} {f : α → Value} {ok : α → Prop} (h : Reads d f ok) :
    Reads (list d) (Value.list f) fun as => ∀ a ∈ as, ok a where
  read as bs := by
    show d.items .text none (writtenItems (as.map f)) = .ok bs ↔ _
    induction as generalizing bs with
    | nil =>
      show Except.ok [] = .ok bs ↔ _
      simp [eq_comm]
    | cons a as ih =>
      rw [List.map_cons, writtenItems, items]
      simp only [bind_eq_ok, h.read, ih, List.forall_mem_cons]
      constructor
      · rintro ⟨b, ⟨hb, rfl⟩, cs, ⟨hcs, rfl⟩, heq⟩
        exact ⟨⟨hb, hcs⟩, (Except.ok.inj heq).symm⟩
      · rintro ⟨⟨hb, hcs⟩, rfl⟩
        exact ⟨a, ⟨hb, rfl⟩, as, ⟨hcs, rfl⟩, rfl⟩

/-- A pair is read back as an array of two. -/
theorem Reads.pair {d : Decoder α} {e : Decoder β} {f : α → Value} {g : β → Value}
    {ok : α → Prop} {ok' : β → Prop} (h : Reads d f ok) (h' : Reads e g ok') :
    Reads (pair d e) (fun p => .array [f p.1, g p.2]) fun p => ok p.1 ∧ ok' p.2 where
  read p q := by
    have hpair : Decoder.pair d e .text (Draft.written (.array [f p.1, g p.2])) = (do
        let a ← d .text (Draft.written (f p.1))
        let b ← e .text (Draft.written (g p.2))
        return (a, b)) := rfl
    rw [hpair]
    simp only [bind_eq_ok, h.read, h'.read]
    constructor
    · rintro ⟨a, ⟨ha, rfl⟩, b, ⟨hb, rfl⟩, heq⟩
      exact ⟨⟨ha, hb⟩, (Except.ok.inj heq).symm⟩
    · rintro ⟨⟨ha, hb⟩, rfl⟩
      exact ⟨q.1, ⟨ha, rfl⟩, q.2, ⟨hb, rfl⟩, rfl⟩

/-- A value that is written in another form is read back if that form gives it again. -/
theorem Reads.map {d : Decoder α} {f : α → Value} {ok : α → Prop} (h : Reads d f ok) {g : α → β}
    {k : β → α} (hk : ∀ b, g (k b) = b) :
    Reads (d.map g) (fun b => f (k b)) fun b => ok (k b) where
  read b c := by
    rw [Decoder.map, map_eq_ok]
    constructor
    · rintro ⟨a, ha, rfl⟩
      obtain ⟨hok, rfl⟩ := (h.read (k b) a).mp ha
      exact ⟨hok, hk b⟩
    · rintro ⟨hok, rfl⟩
      exact ⟨k c, (h.read (k c) (k c)).mpr ⟨hok, rfl⟩, hk c⟩

end Decoder

/-! ## Records -/

namespace Shape

/-- A member is read into the slot of its field, which has to be free. -/
theorem readMembers_cons {σ : Type} {fields : List (Field σ)} {field : Field σ} {name : String}
    (hfind : fields.find? (·.name = name) = some field) (s : σ) (d : Draft)
    (rest : List (Except Fault String × Draft)) :
    readMembers fields .text none ((.ok name, d) :: rest) s =
      if field.filled s then .error (.duplicate field.name)
      else field.fill .text d s >>= fun s => readMembers fields .text none rest s := by
  rw [readMembers, Except.mapError, ok_bind]
  simp only [hfind]

/-- The one member of the only field. -/
theorem readMembers_single (name : String) (d : Decoder α)
    (fallback : Option (Option α → Option α)) (draft : Draft) :
    readMembers [⟨name, Option.isSome, fun origin draft _ => (d origin draft).map some, fallback⟩]
      .text none [(.ok name, draft)] none = (d .text draft).map some := by
  rw [readMembers_cons (List.find?_cons_of_pos (decide_eq_true rfl)), if_neg (by simp)]
  cases hd : d .text draft <;> simp only [hd] <;> rfl

/-- Reads members into the slots of a shape and makes the record of them. -/
def readWritten (s : Shape α) (ms : List (String × Value)) : Except Mismatch α := do
  let slots ← readMembers s.fields .text none (writtenMembers ms) s.empty
  s.finish slots

/-- Records whose members are written by `write` are read back, those that are `ok`. -/
structure Reads (s : Shape α) (write : α → List (String × Value)) (ok : α → Prop) : Prop where
  /-- All members are those of fields. -/
  known : ∀ a, ∀ m ∈ write a, m.1 ∈ s.fields.map (·.name)
  /-- What is written is all that is read. -/
  read : ∀ a b, s.readWritten (write a) = .ok b ↔ ok a ∧ b = a

/-- A field that has to be there is read back if its value is. -/
theorem reads_required {d : Decoder α} {f : α → Value} {ok : α → Prop} (name : String)
    (h : d.Reads f ok) : (required name d).Reads (fun a => [(name, f a)]) ok where
  known a m hm := by
    rw [List.mem_singleton.mp hm]
    exact List.mem_singleton.mpr rfl
  read a b := by
    have hread : (required name d).readWritten [(name, f a)] =
        d .text (Draft.written (f a)) := by
      refine (congrArg (· >>= (required name d).finish)
        (readMembers_single name d none (Draft.written (f a)))).trans ?_
      cases d .text (Draft.written (f a)) <;> rfl
    rw [hread, h.read]

/-- A field with a default is read back if its value is, and if it is left out for the default
only. -/
theorem reads_withDefault {d : Decoder α} {f : α → Value} {ok : α → Prop} (name : String)
    (default : α) (h : d.Reads f ok) (hok : ok default) {write : α → List (String × Value)}
    (hwrite : ∀ a, write a = [(name, f a)] ∨ write a = [] ∧ a = default) :
    (withDefault name default d).Reads write ok where
  known a m hm := by
    rcases hwrite a with hw | ⟨hw, -⟩
    · rw [hw] at hm
      rw [List.mem_singleton.mp hm]
      exact List.mem_singleton.mpr rfl
    · rw [hw] at hm
      exact absurd hm List.not_mem_nil
  read a b := by
    rcases hwrite a with hw | ⟨hw, rfl⟩
    · have hread : (withDefault name default d).readWritten [(name, f a)] =
          d .text (Draft.written (f a)) := by
        refine (congrArg (· >>= (withDefault name default d).finish)
          (readMembers_single name d (some fun _ => some default) (Draft.written (f a)))).trans ?_
        cases d .text (Draft.written (f a)) <;> rfl
      rw [hw, hread, h.read]
    · rw [hw]
      show Except.ok a = .ok b ↔ _
      rw [Except.ok.injEq, eq_comm]
      exact (and_iff_right hok).symm

section Both

variable {σ τ : Type} {fs : List (Field σ)} {gs : List (Field τ)}

theorem find?_of_mem_names {name : String} (h : name ∈ fs.map (·.name)) :
    ∃ field, fs.find? (·.name = name) = some field := by
  obtain ⟨field, hfield, rfl⟩ := List.mem_map.mp h
  exact Option.isSome_iff_exists.mp
    (List.find?_isSome.mpr ⟨field, hfield, decide_eq_true rfl⟩)

theorem find?_onFirst {name : String} {field : Field σ}
    (h : fs.find? (·.name = name) = some field) :
    (fs.map onFirst ++ gs.map onSecond).find? (·.name = name) = some (onFirst field) := by
  have hfirst : (fs.map (onFirst (τ := τ))).find? (·.name = name) = some (onFirst field) := by
    rw [List.find?_map]
    exact congrArg (Option.map onFirst) h
  rw [List.find?_append, hfirst, Option.some_or]

theorem find?_onSecond {name : String} {field : Field τ} (hnot : name ∉ fs.map (·.name))
    (h : gs.find? (·.name = name) = some field) :
    (fs.map onFirst ++ gs.map onSecond).find? (·.name = name) = some (onSecond field) := by
  have hfirst : (fs.map (onFirst (τ := τ))).find? (·.name = name) = none := by
    rw [List.find?_map, Option.map_eq_none_iff, List.find?_eq_none]
    intro f hf hname
    exact hnot (List.mem_map.mpr ⟨f, hf, of_decide_eq_true hname⟩)
  have hsecond : (gs.map (onSecond (σ := σ))).find? (·.name = name) =
      some (onSecond field) := by
    rw [List.find?_map]
    exact congrArg (Option.map onSecond) h
  rw [List.find?_append, hfirst, hsecond, Option.none_or]

/-- Members of the first fields are read into the first slots, and the reading goes on behind
them. -/
theorem readMembers_onFirst {ms : List (String × Value)}
    (hms : ∀ m ∈ ms, m.1 ∈ fs.map (·.name)) (rest : List (Except Fault String × Draft))
    (x : σ) (y : τ) :
    readMembers (fs.map onFirst ++ gs.map onSecond) .text none (writtenMembers ms ++ rest) (x, y) =
      readMembers fs .text none (writtenMembers ms) x >>= fun x =>
        readMembers (fs.map onFirst ++ gs.map onSecond) .text none rest (x, y) := by
  induction ms generalizing x with
  | nil => rfl
  | cons m ms ih =>
    obtain ⟨name, v⟩ := m
    obtain ⟨field, hfield⟩ := find?_of_mem_names (hms _ List.mem_cons_self)
    rw [writtenMembers, List.cons_append, readMembers_cons (find?_onFirst hfield),
      readMembers_cons hfield]
    show (if field.filled x then _ else _) = _
    split
    · rfl
    · show ((field.fill .text _ x).map (·, y) >>= _) = _
      cases field.fill .text (Draft.written v) x with
      | error e => rfl
      | ok x' => exact ih (fun m hm => hms m (List.mem_cons_of_mem _ hm)) x'

/-- Members of the second fields, none of which is one of the first, are read into the second
slots. -/
theorem readMembers_onSecond {ms : List (String × Value)}
    (hms : ∀ m ∈ ms, m.1 ∈ gs.map (·.name)) (hother : ∀ m ∈ ms, m.1 ∉ fs.map (·.name))
    (x : σ) (y : τ) :
    readMembers (fs.map onFirst ++ gs.map onSecond) .text none (writtenMembers ms) (x, y) =
      (readMembers gs .text none (writtenMembers ms) y).map (x, ·) := by
  induction ms generalizing y with
  | nil => rfl
  | cons m ms ih =>
    obtain ⟨name, v⟩ := m
    obtain ⟨field, hfield⟩ := find?_of_mem_names (hms _ List.mem_cons_self)
    rw [writtenMembers, readMembers_cons (find?_onSecond (hother _ List.mem_cons_self) hfield),
      readMembers_cons hfield]
    show (if field.filled y then _ else _) = _
    split
    · rfl
    · show ((field.fill .text _ y).map (x, ·) >>= _) = _
      cases field.fill .text (Draft.written v) y with
      | error e => rfl
      | ok y' =>
        exact ih (fun m hm => hms m (List.mem_cons_of_mem _ hm))
          (fun m hm => hother m (List.mem_cons_of_mem _ hm)) y'

end Both

theorem writtenMembers_append (ms ns : List (String × Value)) :
    writtenMembers (ms ++ ns) = writtenMembers ms ++ writtenMembers ns := by
  induction ms with
  | nil => rfl
  | cons m ms ih =>
    obtain ⟨name, v⟩ := m
    rw [List.cons_append, writtenMembers, writtenMembers, ih, List.cons_append]

/-- Two shapes one after the other are read back if both are and no name is one of both. -/
theorem Reads.and {a : Shape α} {b : Shape β} {write : α → List (String × Value)}
    {write' : β → List (String × Value)} {ok : α → Prop} {ok' : β → Prop}
    (h : a.Reads write ok) (h' : b.Reads write' ok')
    (hnames : ∀ name ∈ b.fields.map (·.name), name ∉ a.fields.map (·.name)) :
    (a.and b).Reads (fun p => write p.1 ++ write' p.2) fun p => ok p.1 ∧ ok' p.2 where
  known p m hm := by
    have hfields : (a.fields.map onFirst ++ b.fields.map onSecond :
          List (Field (a.Slots × b.Slots))).map (·.name) =
        a.fields.map (·.name) ++ b.fields.map (·.name) := by
      rw [List.map_append, List.map_map, List.map_map]
      rfl
    show m.1 ∈ (a.fields.map onFirst ++ b.fields.map onSecond :
      List (Field (a.Slots × b.Slots))).map (·.name)
    rw [hfields]
    rcases List.mem_append.mp hm with hm | hm
    · exact List.mem_append_left _ (h.known p.1 m hm)
    · exact List.mem_append_right _ (h'.known p.2 m hm)
  read p q := by
    have hother : ∀ m ∈ write' p.2, m.1 ∉ a.fields.map (·.name) := fun m hm =>
      hnames _ (h'.known p.2 m hm)
    -- no member of the second shape is one of the first, so the members go to their own slots
    have hslots : readMembers (a.fields.map onFirst ++ b.fields.map onSecond) .text none
        (writtenMembers (write p.1 ++ write' p.2)) (a.empty, b.empty) = (do
          let x ← readMembers a.fields .text none (writtenMembers (write p.1)) a.empty
          (readMembers b.fields .text none (writtenMembers (write' p.2)) b.empty).map (x, ·)) := by
      rw [writtenMembers_append, readMembers_onFirst (h.known p.1)]
      exact congrArg _ (funext fun x => readMembers_onSecond (h'.known p.2) hother x b.empty)
    have hread : (a.and b).readWritten (write p.1 ++ write' p.2) = (do
        let slots ← (do
          let x ← readMembers a.fields .text none (writtenMembers (write p.1)) a.empty
          (readMembers b.fields .text none (writtenMembers (write' p.2)) b.empty).map (x, ·))
        let x ← a.finish slots.1
        let y ← b.finish slots.2
        return (x, y)) := congrArg (· >>= (a.and b).finish) hslots
    have hfirst := h.read p.1
    have hsecond := h'.read p.2
    simp only [readWritten, bind_eq_ok] at hfirst hsecond
    rw [hread]
    simp only [bind_eq_ok, map_eq_ok]
    constructor
    · rintro ⟨slots, ⟨x, hx, y, hy, rfl⟩, u, hu, v, hv, huv⟩
      obtain ⟨hok, rfl⟩ := (hfirst u).mp ⟨x, hx, hu⟩
      obtain ⟨hok', rfl⟩ := (hsecond v).mp ⟨y, hy, hv⟩
      exact ⟨⟨hok, hok'⟩, (Except.ok.inj huv).symm⟩
    · rintro ⟨⟨hok, hok'⟩, rfl⟩
      obtain ⟨x, hx, hu⟩ := (hfirst q.1).mpr ⟨hok, rfl⟩
      obtain ⟨y, hy, hv⟩ := (hsecond q.2).mpr ⟨hok', rfl⟩
      exact ⟨(x, y), ⟨x, hx, y, hy, rfl⟩, q.1, hu, q.2, hv, rfl⟩

/-- A record that is written as the values of another shape is read back if these give it again. -/
theorem Reads.map {a : Shape α} {write : α → List (String × Value)} {ok : α → Prop}
    (h : a.Reads write ok) {g : α → β} {k : β → α} (hk : ∀ b, g (k b) = b) :
    (a.map g).Reads (fun b => write (k b)) fun b => ok (k b) where
  known b := h.known (k b)
  read b c := by
    have hread : (a.map g).readWritten (write (k b)) =
        (a.readWritten (write (k b))).map g := by
      show (readMembers a.fields .text none _ a.empty >>= fun s => (a.finish s).map g) =
        (readMembers a.fields .text none _ a.empty >>= a.finish).map g
      cases readMembers a.fields .text none (writtenMembers (write (k b))) a.empty <;> rfl
    rw [hread, map_eq_ok]
    constructor
    · rintro ⟨x, hx, rfl⟩
      obtain ⟨hok, rfl⟩ := (h.read (k b) x).mp hx
      exact ⟨hok, hk b⟩
    · rintro ⟨hok, rfl⟩
      exact ⟨k c, (h.read (k c) (k c)).mpr ⟨hok, rfl⟩, hk c⟩

/-- The object of a record is read back if its members are. -/
theorem Reads.record {a : Shape α} {write : α → List (String × Value)} {ok : α → Prop}
    (h : a.Reads write ok) (name : String) :
    (Shape.record name a).Reads (fun x => .object (write x)) ok where
  read x y := h.read x y

end Shape

/-- The text of a value is read back as the value if its numbers are within bounds; other texts that
are written are not read. -/
theorem Decoder.Reads.readText {d : Decoder α} {f : α → Value} {ok : α → Prop} (h : d.Reads f ok)
    (a b : α) : d.readText (f a).compact = .ok b ↔ ok a ∧ b = a := by
  have htext : d.readText (f a).compact = d .text (Draft.written (f a)) := by
    rw [Decoder.readText, readText_print (f a)]
    cases hd : d .text (Draft.written (f a)) <;> simp only [hd] <;> rfl
  rw [htext, h.read]

end AppBundle.Json
