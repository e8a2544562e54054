import AppBundle.Proofs.Json.Text

/-!
# The round trip of a value

A value whose whole numbers fit 64 bits is written as a text without control characters
(`Value.noControls_print`), and the text is that of a value alike: only a number may come back as
another one, which has the same text (`Value.ofText?_print`). How deep the value is nested does not
matter.
-/

namespace AppBundle.Json

open AppBundle.Text

/-! ## Exact values -/

namespace Draft

mutual

/-- The value of a draft without faults. Unlike `anyValue` it takes numbers exactly as they are
written, and values however deep they are nested. -/
def value? : Draft → Option Value
  | .null => some .null
  | .bool b => some (.bool b)
  | .number n => some (.number n)
  | .string (.ok s) none => some (.string s)
  | .array items none => (items? items).map .array
  | .object members none => (members? members).map .object
  | _ => none

/-- The values of items. -/
def items? : List Draft → Option (List Value)
  | [] => some []
  | d :: rest => do
    let v ← value? d
    let vs ← items? rest
    return v :: vs

/-- The values of members. -/
def members? : List (Except Fault String × Draft) → Option (List (String × Value))
  | [] => some []
  | (.ok name, d) :: rest => do
    let v ← value? d
    let ms ← members? rest
    return (name, v) :: ms
  | (.error _, _) :: _ => none

end

end Draft

/-- The value that a text is, if it is JSON. -/
def Value.ofText? (text : String) : Option Value :=
  match readText text.toList with
  | (d, true) => d.value?
  | (_, false) => none

/-! ## Values that are alike -/

mutual

/-- Every whole number of a value fits 64 bits, as those that are read do. -/
def Value.InRange : Value → Prop
  | .number n => n.InRange
  | .array items => InRangeItems items
  | .object members => InRangeMembers members
  | .null => True
  | .bool _ => True
  | .string _ => True

/-- The numbers of items. -/
def InRangeItems : List Value → Prop
  | [] => True
  | v :: rest => v.InRange ∧ InRangeItems rest

/-- The numbers of members. -/
def InRangeMembers : List (String × Value) → Prop
  | [] => True
  | (_, v) :: rest => v.InRange ∧ InRangeMembers rest

end

mutual

/-- Values that are equal but for numbers, which have the same text. -/
inductive Value.Alike : Value → Value → Prop where
  /-- Nothing. -/
  | null : Value.Alike .null .null
  /-- A truth value. -/
  | bool (b : Bool) : Value.Alike (.bool b) (.bool b)
  /-- Numbers of the same text. -/
  | number {m n : Number} (h : m.text = n.text) : Value.Alike (.number m) (.number n)
  /-- A string. -/
  | string (s : String) : Value.Alike (.string s) (.string s)
  /-- Items in their order. -/
  | array {vs ws : List Value} (h : AlikeItems vs ws) : Value.Alike (.array vs) (.array ws)
  /-- Members in their order. -/
  | object {vs ws : List (String × Value)} (h : AlikeMembers vs ws) :
    Value.Alike (.object vs) (.object ws)

/-- Items that are alike one by one. -/
inductive AlikeItems : List Value → List Value → Prop where
  /-- There are none. -/
  | nil : AlikeItems [] []
  /-- The first items and those behind them. -/
  | cons {v w : Value} {vs ws : List Value} (h : v.Alike w) (hrest : AlikeItems vs ws) :
    AlikeItems (v :: vs) (w :: ws)

/-- Members of the same names that are alike one by one. -/
inductive AlikeMembers : List (String × Value) → List (String × Value) → Prop where
  /-- There are none. -/
  | nil : AlikeMembers [] []
  /-- The first members and those behind them. -/
  | cons (name : String) {v w : Value} {vs ws : List (String × Value)} (h : v.Alike w)
    (hrest : AlikeMembers vs ws) : AlikeMembers ((name, v) :: vs) ((name, w) :: ws)

end

theorem Value.Alike.eq_string {w : Value} {s : String} (h : w.Alike (.string s)) :
    w = .string s := by
  cases h with
  | string => rfl

theorem Value.Alike.exists_object {w : Value} {vs : List (String × Value)}
    (h : w.Alike (.object vs)) : ∃ ws, w = .object ws ∧ AlikeMembers ws vs := by
  cases h with
  | object h => exact ⟨_, rfl, h⟩

theorem AlikeMembers.eq_nil {ws : List (String × Value)} (h : AlikeMembers ws []) : ws = [] := by
  cases h with
  | nil => rfl

theorem AlikeMembers.exists_cons {name : String} {v : Value} {vs ws : List (String × Value)}
    (h : AlikeMembers ws ((name, v) :: vs)) :
    ∃ w ws', ws = (name, w) :: ws' ∧ w.Alike v ∧ AlikeMembers ws' vs := by
  cases h with
  | cons _ h hrest => exact ⟨_, _, rfl, h, hrest⟩

mutual

/-- What a text gives has a value, which is like the one that was written. -/
theorem value?_written : ∀ (v : Value), v.InRange →
    ∃ w, (Draft.written v).value? = some w ∧ w.Alike v
  | .null, _ => ⟨.null, rfl, .null⟩
  | .bool b, _ => ⟨.bool b, rfl, .bool b⟩
  | .number n, h => ⟨.number n.written, rfl, .number (Number.text_written h)⟩
  | .string s, _ => ⟨.string s, rfl, .string s⟩
  | .array items, h => by
    obtain ⟨ws, hvalues, halike⟩ := items?_written items h
    refine ⟨.array ws, ?_, .array halike⟩
    rw [Draft.written, Draft.value?, hvalues]
    rfl
  | .object members, h => by
    obtain ⟨ws, hvalues, halike⟩ := members?_written members h
    refine ⟨.object ws, ?_, .object halike⟩
    rw [Draft.written, Draft.value?, hvalues]
    rfl

/-- The same for items. -/
theorem items?_written : ∀ (vs : List Value), InRangeItems vs →
    ∃ ws, Draft.items? (writtenItems vs) = some ws ∧ AlikeItems ws vs
  | [], _ => ⟨[], rfl, .nil⟩
  | v :: vs, h => by
    obtain ⟨w, hvalue, hw⟩ := value?_written v h.1
    obtain ⟨ws, hvalues, hws⟩ := items?_written vs h.2
    refine ⟨w :: ws, ?_, .cons hw hws⟩
    rw [writtenItems, Draft.items?, hvalue, hvalues]
    rfl

/-- The same for members. -/
theorem members?_written : ∀ (ms : List (String × Value)), InRangeMembers ms →
    ∃ ws, Draft.members? (writtenMembers ms) = some ws ∧ AlikeMembers ws ms
  | [], _ => ⟨[], rfl, .nil⟩
  | (name, v) :: ms, h => by
    obtain ⟨w, hvalue, hw⟩ := value?_written v h.1
    obtain ⟨ws, hvalues, hws⟩ := members?_written ms h.2
    refine ⟨(name, w) :: ws, ?_, .cons name hw hws⟩
    rw [writtenMembers, Draft.members?, hvalue, hvalues]
    rfl

end

/-- The compact text of a value is that of a value alike. -/
theorem Value.ofText?_print (v : Value) (h : v.InRange) :
    ∃ w, Value.ofText? v.compact = some w ∧ w.Alike v := by
  obtain ⟨w, hvalue, halike⟩ := value?_written v h
  refine ⟨w, ?_, halike⟩
  rw [Value.ofText?, readText_print]
  exact hvalue

/-! ## One line -/

/-- No character is one of the control characters in front of the blank. -/
def NoControls (cs : List Char) : Prop :=
  ∀ c ∈ cs, 32 ≤ c.toNat

-- The instance is named: any other would try all characters there are.
instance (cs : List Char) : Decidable (NoControls cs) :=
  List.decidableBAll (fun c : Char => 32 ≤ c.toNat) cs

namespace NoControls

variable {cs ds : List Char}

theorem append (hcs : NoControls cs) (hds : NoControls ds) : NoControls (cs ++ ds) :=
  List.forall_mem_append.mpr ⟨hcs, hds⟩

theorem cons {c : Char} (hc : 32 ≤ c.toNat) (hcs : NoControls cs) : NoControls (c :: cs) :=
  List.forall_mem_cons.mpr ⟨hc, hcs⟩

theorem feed_notMem (h : NoControls cs) : '\n' ∉ cs :=
  fun hfeed => absurd (h '\n' hfeed) (by decide)

end NoControls

theorem AllDigits.noControls {ds : List Char} (h : AllDigits ds) : NoControls ds := by
  intro c hc
  have hdigit := h c hc
  simp only [Char.isDigit, ge_iff_le, Bool.and_eq_true, decide_eq_true_eq,
    UInt32.le_iff_toNat_le] at hdigit
  have hzero : '0'.val.toNat = 48 := rfl
  rw [Char.toNat]
  omega

theorem noControls_hexDigit : ∀ n < 16, NoControls [hexDigit n] := by decide

/-- Control characters are escaped. -/
theorem noControls_escapeChar (c : Char) : NoControls (escapeChar c) := by
  unfold escapeChar
  split_ifs with h1 h2 h3 h4 h5 h6 h7 h8
  -- seven characters have an escape of their own
  iterate 7 decide
  · have hfront : NoControls ['\\', 'u', '0', '0'] := by decide
    have hhigh := noControls_hexDigit (c.toNat / 16) (by omega)
    have hlow := noControls_hexDigit (c.toNat % 16) (by omega)
    exact hfront.append (hhigh.append hlow)
  · exact .cons (by omega) (by decide)

theorem noControls_quoteString (s : String) : NoControls (quoteString s) := by
  rw [quoteString]
  refine .append (.cons (by decide) fun c hc => ?_) (by decide)
  obtain ⟨d, -, hc⟩ := List.mem_flatMap.mp hc
  exact noControls_escapeChar d c hc

theorem Literal.Valid.noControls {l : Literal} (h : l.Valid) : NoControls l.text := by
  refine .append h.whole.allDigits.noControls (.append ?_ ?_)
  · cases hfraction : l.fraction with
    | none => exact fun c hc => absurd hc List.not_mem_nil
    | some ds => exact .cons (by decide) (h.fraction ds hfraction).2.noControls
  · cases l.scale with
    | none => exact fun c hc => absurd hc List.not_mem_nil
    | some e =>
      refine .cons (by decide) (.cons ?_ (allDigits_numeral _).noControls)
      split <;> decide

theorem Number.noControls_text (n : Number) : NoControls n.text := by
  rw [n.text_eq]
  refine .append ?_ n.valid_literal.noControls
  split <;> decide

mutual

/-- The compact text of a value has no control characters, whatever its strings hold. -/
theorem Value.noControls_print : ∀ (v : Value), NoControls v.print
  | .null => by decide
  | .bool b => by cases b <;> decide
  | .number n => n.noControls_text
  | .string s => noControls_quoteString s
  | .array items => .append (.cons (by decide) (noControls_printItems items)) (by decide)
  | .object members => .append (.cons (by decide) (noControls_printMembers members)) (by decide)

/-- The same for items. -/
theorem noControls_printItems : ∀ (vs : List Value), NoControls (Value.printItems vs)
  | [] => by decide
  | [v] => v.noControls_print
  | v :: w :: vs => .append v.noControls_print (.cons (by decide) (noControls_printItems (w :: vs)))

/-- The same for members. -/
theorem noControls_printMembers : ∀ (ms : List (String × Value)),
    NoControls (Value.printMembers ms)
  | [] => by decide
  | [(name, v)] => .append (noControls_quoteString name) (.cons (by decide) v.noControls_print)
  | (name, v) :: m :: ms =>
    .append (.append (noControls_quoteString name) (.cons (by decide) v.noControls_print))
      (.cons (by decide) (noControls_printMembers (m :: ms)))

end

end AppBundle.Json
