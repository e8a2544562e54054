import AppBundle.Json.Printer
import AppBundle.Proofs.Json.Number

/-!
# Reading what was written

The compact text of a value is read back as the draft of the value, with every number as its literal
gives it (`readText_print`): a whole number beyond 64 bits comes back as a decimal.
-/

namespace AppBundle.Json

open AppBundle.Text

/-! ## Strings -/

theorem hexValue?_hexDigit : ∀ n < 16, hexValue? (hexDigit n) = some n := by decide

/-- One character of a string is read from its text. -/
theorem readStringFrom_escapeChar (fuel : Nat) (seen : List Char) (c : Char) (rest : List Char) :
    readStringFrom (fuel + 1) seen none (escapeChar c ++ rest) =
      readStringFrom fuel (c :: seen) none rest := by
  unfold escapeChar
  split_ifs with h1 h2 h3 h4 h5 h6 h7 h8
  · subst h1; rfl
  · subst h2; rfl
  · subst h3; rfl
  · subst h4; rfl
  · subst h5; rfl
  · subst h6; rfl
  · subst h7; rfl
  · -- a control character without a short form
    have hhex : readHex ('0' :: '0' :: hexDigit (c.toNat / 16) :: hexDigit (c.toNat % 16) :: rest) =
        .ok (c.toNat, rest) := by
      have hhigh := hexValue?_hexDigit (c.toNat / 16) (by omega)
      have hlow := hexValue?_hexDigit (c.toNat % 16) (by omega)
      have hzero : hexValue? '0' = some 0 := by decide
      have hsum : 0 * 4096 + 0 * 256 + c.toNat / 16 * 16 + c.toNat % 16 = c.toNat := by omega
      simp only [readHex, hhigh, hlow, hzero, hsum]
    simp only [List.cons_append, List.nil_append, readStringFrom, hhex]
    rw [if_neg (by omega), if_neg (by omega), Char.ofNat_toNat]
  · -- any other character stands for itself
    rw [List.singleton_append, readStringFrom]
    · rw [if_neg h8]
    · exact fun h => h1 h
    · exact fun h => h2 h

theorem readStringFrom_escape {fuel : Nat} {s : List Char} (hfuel : s.length < fuel)
    (seen rest : List Char) :
    readStringFrom fuel seen none (s.flatMap escapeChar ++ '"' :: rest) =
      ⟨.ok (String.ofList (seen.reverse ++ s)), none, rest⟩ := by
  induction s generalizing fuel seen with
  | nil =>
    obtain ⟨fuel, rfl⟩ := Nat.exists_eq_add_of_lt hfuel
    rw [List.append_nil]
    rfl
  | cons c s ih =>
    obtain ⟨fuel, rfl⟩ : ∃ n, fuel = n + 1 := ⟨fuel - 1, by omega⟩
    rw [List.flatMap_cons, List.append_assoc, readStringFrom_escapeChar,
      ih (by rw [List.length_cons] at hfuel; omega)]
    simp

theorem length_le_flatMap_escapeChar (s : List Char) :
    s.length ≤ (s.flatMap escapeChar).length := by
  induction s with
  | nil => exact Nat.le_refl _
  | cons c s ih =>
    have hc : 1 ≤ (escapeChar c).length := by
      unfold escapeChar
      split_ifs <;> simp
    rw [List.flatMap_cons, List.length_append, List.length_cons]
    omega

/-- A string is read back behind its opening quote. -/
theorem readString_escape (s : String) (rest : List Char) :
    readString (s.toList.flatMap escapeChar ++ '"' :: rest) = ⟨.ok s, none, rest⟩ := by
  have hlength := length_le_flatMap_escapeChar s.toList
  rw [readString, readStringFrom_escape, List.reverse_nil, List.nil_append, String.ofList_toList]
  rw [List.length_append, List.length_cons]
  omega

/-! ## Values -/

mutual

/-- The draft that the text of a value gives. -/
def Draft.written : Value → Draft
  | .null => .null
  | .bool b => .bool b
  | .number n => .number n.written
  | .string s => .string (.ok s) none
  | .array items => .array (writtenItems items) none
  | .object members => .object (writtenMembers members) none

/-- The drafts that the texts of items give. -/
def writtenItems : List Value → List Draft
  | [] => []
  | v :: rest => Draft.written v :: writtenItems rest

/-- The drafts that the texts of members give. -/
def writtenMembers : List (String × Value) → List (Except Fault String × Draft)
  | [] => []
  | (name, v) :: rest => (.ok name, Draft.written v) :: writtenMembers rest

end

mutual

/-- The number of steps that reading a value takes one inside the other. -/
def Value.steps : Value → Nat
  | .array items => stepsItems items + 1
  | .object members => stepsMembers members + 1
  | _ => 1

/-- The number of steps for items. -/
def stepsItems : List Value → Nat
  | [] => 1
  | v :: rest => max v.steps (stepsItems rest) + 1

/-- The number of steps for members. -/
def stepsMembers : List (String × Value) → Nat
  | [] => 1
  | (_, v) :: rest => max v.steps (stepsMembers rest) + 1

end

theorem one_le_steps (v : Value) : 1 ≤ v.steps := by
  cases v <;> simp [Value.steps]

theorem exists_fuel_of_steps_le {v : Value} {fuel : Nat} (h : v.steps ≤ fuel) :
    ∃ n, fuel = n + 1 :=
  Nat.exists_eq_add_of_le' (Nat.le_trans (one_le_steps v) h)

/-- The items behind the first. -/
def printRest : List Value → List Char
  | [] => []
  | v :: rest => ',' :: Value.printItems (v :: rest)

/-- The members behind the first. -/
def printMembersRest : List (String × Value) → List Char
  | [] => []
  | m :: rest => ',' :: Value.printMembers (m :: rest)

theorem printItems_cons (v : Value) (vs : List Value) :
    Value.printItems (v :: vs) = v.print ++ printRest vs := by
  cases vs with
  | nil => rw [printRest, List.append_nil]; rfl
  | cons w vs => rfl

theorem printMembers_cons (name : String) (v : Value) (ms : List (String × Value)) :
    Value.printMembers ((name, v) :: ms) =
      quoteString name ++ ':' :: (v.print ++ printMembersRest ms) := by
  cases ms with
  | nil => rw [printMembersRest, List.append_nil]; rfl
  | cons m ms => simp [Value.printMembers, printMembersRest]

theorem isSpace_of_isDigit {c : Char} (hc : c.isDigit = true) : isSpace c = false := by
  by_contra hspace
  simp only [isSpace, Bool.not_eq_false, Bool.or_eq_true, beq_iff_eq] at hspace
  rcases hspace with ((rfl | rfl) | rfl) | rfl <;> exact absurd hc (by decide)

/-- A value begins with a character that is no blank and closes no array. -/
theorem print_eq_cons (v : Value) : ∃ c cs, v.print = c :: cs ∧ isSpace c = false ∧ c ≠ ']' := by
  cases v with
  | null => exact ⟨_, _, rfl, rfl, by decide⟩
  | bool b => cases b <;> exact ⟨_, _, rfl, rfl, by decide⟩
  | number n =>
    obtain ⟨c, cs, hcons, hc⟩ := n.valid_literal.exists_cons
    rw [Value.print, Number.text_eq, hcons]
    split
    · exact ⟨'-', c :: cs, rfl, rfl, by decide⟩
    · refine ⟨c, cs, rfl, isSpace_of_isDigit hc, ?_⟩
      rintro rfl
      exact absurd hc (by decide)
  | string s => exact ⟨_, _, rfl, rfl, by decide⟩
  | array items => exact ⟨_, _, rfl, rfl, by decide⟩
  | object members => exact ⟨_, _, rfl, rfl, by decide⟩

theorem skipSpace_cons {c : Char} (hc : isSpace c = false) (cs : List Char) :
    skipSpace (c :: cs) = c :: cs :=
  List.dropWhile_cons_of_neg (by simp [hc])

theorem readValue_number (fuel : Nat) (n : Number) {rest : List Char} (hrest : Stops rest) :
    readValue (fuel + 1) (n.text ++ rest) = (.number n.written, some rest) := by
  obtain ⟨c, cs, hcons, hc⟩ := n.valid_literal.exists_cons
  have hread := readNumber_literal n.isNegative n.valid_literal hrest
  rw [n.number_literal, hcons, List.cons_append] at hread
  rw [n.text_eq, hcons]
  cases hsign : n.isNegative with
  | true =>
    rw [hsign] at hread
    rw [if_pos rfl, List.singleton_append, List.cons_append, List.cons_append, readValue,
      skipSpace_cons rfl]
    simp only [hread, ofScalar]
  | false =>
    rw [hsign] at hread
    rw [if_neg (by simp), List.nil_append, List.cons_append, readValue,
      skipSpace_cons (isSpace_of_isDigit hc)]
    split
    case h_1 heq => exact absurd heq (List.cons_ne_nil _ _)
    case h_9 heq =>
      obtain ⟨rfl, rfl⟩ := List.cons.inj heq
      simp only [hc, if_true, hread, ofScalar]
    -- no other beginning of a value is a digit
    all_goals
      next heq =>
      obtain ⟨rfl, -⟩ := List.cons.inj heq
      exact absurd hc (by decide)

/-- The items from one on whose text has been reached. -/
def itemsFrom (fuel : Nat) (cs : List Char) : List Draft × Option Fault × Option (List Char) :=
  match readValue fuel cs with
  | (d, none) => ([d], none, none)
  | (d, some rest) =>
    let (ds, stop, rest) := readItems fuel false rest
    (d :: ds, stop, rest)

theorem readItems_first (fuel : Nat) {c : Char} {cs : List Char} (hspace : isSpace c = false)
    (hclose : c ≠ ']') : readItems (fuel + 1) true (c :: cs) = itemsFrom fuel (c :: cs) := by
  rw [readItems, skipSpace_cons hspace]
  split
  · next heq => exact absurd heq (List.cons_ne_nil _ _)
  · next heq => exact absurd (List.cons.inj heq).1 hclose
  · next heq =>
    obtain ⟨rfl, rfl⟩ := List.cons.inj heq
    rfl

theorem readItems_next (fuel : Nat) {c : Char} {cs : List Char} (hspace : isSpace c = false)
    (hclose : c ≠ ']') :
    readItems (fuel + 1) false (',' :: c :: cs) = itemsFrom fuel (c :: cs) := by
  rw [readItems, skipSpace_cons rfl]
  simp only [Bool.false_eq_true, if_false]
  split
  · next heq => exact absurd heq (List.cons_ne_nil _ _)
  · next heq => exact absurd (List.cons.inj heq).1 (by decide)
  · next heq =>
    obtain ⟨rfl, rfl⟩ := List.cons.inj heq
    rw [if_pos rfl, skipSpace_cons hspace]
    split
    · next heq => exact absurd heq (List.cons_ne_nil _ _)
    · next heq => exact absurd (List.cons.inj heq).1 hclose
    · rfl

/-- The members from one on whose name has been reached behind its opening quote. -/
def membersFrom (fuel : Nat) (cs : List Char) :
    List (Except Fault String × Draft) × Option Fault × Option (List Char) :=
  let name := readString cs
  match name.stop, name.text with
  | some f, .error mild =>
    if mild = f then ([], some f, none) else ([(.error mild, .fault f)], none, none)
  | some f, .ok _ => ([], some f, none)
  | none, text =>
    match skipSpace name.rest with
    | [] => ([(text, .fault .endOfObject)], none, none)
    | ':' :: rest =>
      match readValue fuel rest with
      | (d, none) => ([(text, d)], none, none)
      | (d, some rest) =>
        let (ms, stop, rest) := readMembers fuel false rest
        ((text, d) :: ms, stop, rest)
    | _ => ([(text, .fault .expectedColon)], none, none)

theorem readMembers_first (fuel : Nat) (cs : List Char) :
    readMembers (fuel + 1) true ('"' :: cs) = membersFrom fuel cs := by
  rw [readMembers, skipSpace_cons rfl]
  rfl

theorem readMembers_next (fuel : Nat) (cs : List Char) :
    readMembers (fuel + 1) false (',' :: '"' :: cs) = membersFrom fuel cs := by
  rw [readMembers, skipSpace_cons rfl]
  rfl

mutual

/-- A value is read back from its text, whatever may follow it. -/
theorem readValue_print : ∀ (v : Value) {fuel : Nat}, v.steps ≤ fuel →
    ∀ {rest : List Char}, Stops rest →
      readValue fuel (v.print ++ rest) = (Draft.written v, some rest)
  | .null, fuel, hfuel, rest, _ => by
    obtain ⟨fuel, rfl⟩ := exists_fuel_of_steps_le hfuel
    rfl
  | .bool b, fuel, hfuel, rest, _ => by
    obtain ⟨fuel, rfl⟩ := exists_fuel_of_steps_le hfuel
    cases b <;> rfl
  | .number n, fuel, hfuel, rest, hrest => by
    obtain ⟨fuel, rfl⟩ := exists_fuel_of_steps_le hfuel
    exact readValue_number fuel n hrest
  | .string s, fuel, hfuel, rest, _ => by
    obtain ⟨fuel, rfl⟩ := exists_fuel_of_steps_le hfuel
    have hprint : (Value.string s).print ++ rest =
        '"' :: (s.toList.flatMap escapeChar ++ '"' :: rest) := by
      simp [Value.print, quoteString]
    rw [hprint, readValue, skipSpace_cons rfl]
    simp only [readString_escape]
    rfl
  | .array items, fuel, hfuel, rest, _ => by
    obtain ⟨fuel, rfl⟩ := exists_fuel_of_steps_le hfuel
    have hprint : (Value.array items).print ++ rest =
        '[' :: (Value.printItems items ++ ']' :: rest) := by
      simp [Value.print]
    rw [Value.steps] at hfuel
    have hitems := (readItems_print items (Nat.le_of_succ_le_succ hfuel) rest).1
    rw [hprint, readValue, skipSpace_cons rfl]
    simp only [hitems]
    rfl
  | .object members, fuel, hfuel, rest, _ => by
    obtain ⟨fuel, rfl⟩ := exists_fuel_of_steps_le hfuel
    have hprint : (Value.object members).print ++ rest =
        '{' :: (Value.printMembers members ++ '}' :: rest) := by
      simp [Value.print]
    rw [Value.steps] at hfuel
    have hmembers := (readMembers_print members (Nat.le_of_succ_le_succ hfuel) rest).1
    rw [hprint, readValue, skipSpace_cons rfl]
    simp only [hmembers]
    rfl

/-- Items are read back up to the end of their array, be they the first or not. -/
theorem readItems_print : ∀ (vs : List Value) {fuel : Nat}, stepsItems vs ≤ fuel →
    ∀ (rest : List Char),
      readItems fuel true (Value.printItems vs ++ ']' :: rest) =
          (writtenItems vs, none, some rest) ∧
        readItems fuel false (printRest vs ++ ']' :: rest) = (writtenItems vs, none, some rest)
  | [], fuel, hfuel, rest => by
    obtain ⟨fuel, rfl⟩ : ∃ n, fuel = n + 1 := ⟨fuel - 1, by simp only [stepsItems] at hfuel; omega⟩
    exact ⟨rfl, rfl⟩
  | v :: vs, fuel, hfuel, rest => by
    rw [stepsItems] at hfuel
    obtain ⟨fuel, rfl⟩ : ∃ n, fuel = n + 1 := ⟨fuel - 1, by omega⟩
    have hstops : Stops (printRest vs ++ ']' :: rest) := by
      cases vs with
      | nil => exact .cons (.inr (.inl rfl))
      | cons w vs => exact .cons (.inl rfl)
    have hsteps : v.steps ≤ fuel ∧ stepsItems vs ≤ fuel := by omega
    have hvalue := readValue_print v hsteps.1 hstops
    have hrest := (readItems_print vs hsteps.2 rest).2
    obtain ⟨c, cs, hprint, hspace, hclose⟩ := print_eq_cons v
    have hfrom : itemsFrom fuel (c :: (cs ++ (printRest vs ++ ']' :: rest))) =
        (writtenItems (v :: vs), none, some rest) := by
      rw [hprint, List.cons_append] at hvalue
      simp only [itemsFrom, hvalue, hrest]
      rfl
    constructor
    · rw [printItems_cons, hprint, List.append_assoc, List.cons_append,
        readItems_first fuel hspace hclose, hfrom]
    · rw [printRest, printItems_cons, hprint, List.cons_append, List.append_assoc,
        List.cons_append, readItems_next fuel hspace hclose, hfrom]

/-- Members are read back up to the end of their object, be they the first or not. -/
theorem readMembers_print : ∀ (ms : List (String × Value)) {fuel : Nat}, stepsMembers ms ≤ fuel →
    ∀ (rest : List Char),
      readMembers fuel true (Value.printMembers ms ++ '}' :: rest) =
          (writtenMembers ms, none, some rest) ∧
        readMembers fuel false (printMembersRest ms ++ '}' :: rest) =
          (writtenMembers ms, none, some rest)
  | [], fuel, hfuel, rest => by
    obtain ⟨fuel, rfl⟩ : ∃ n, fuel = n + 1 :=
      ⟨fuel - 1, by simp only [stepsMembers] at hfuel; omega⟩
    exact ⟨rfl, rfl⟩
  | (name, v) :: ms, fuel, hfuel, rest => by
    rw [stepsMembers] at hfuel
    obtain ⟨fuel, rfl⟩ : ∃ n, fuel = n + 1 := ⟨fuel - 1, by omega⟩
    have hstops : Stops (printMembersRest ms ++ '}' :: rest) := by
      cases ms with
      | nil => exact .cons (.inr (.inr rfl))
      | cons m ms => exact .cons (.inl rfl)
    have hsteps : v.steps ≤ fuel ∧ stepsMembers ms ≤ fuel := by omega
    have hvalue := readValue_print v hsteps.1 hstops
    have hrest := (readMembers_print ms hsteps.2 rest).2
    have hfrom : membersFrom fuel (name.toList.flatMap escapeChar ++ '"' :: ':' ::
        (v.print ++ (printMembersRest ms ++ '}' :: rest))) =
          (writtenMembers ((name, v) :: ms), none, some rest) := by
      simp only [membersFrom, readString_escape, skipSpace_cons (c := ':') rfl, hvalue, hrest]
      rfl
    constructor
    · rw [printMembers_cons, ← hfrom, ← readMembers_first]
      simp [quoteString]
    · rw [printMembersRest, printMembers_cons, ← hfrom, ← readMembers_next]
      simp [quoteString]

end

mutual

/-- Twice the length of a text bounds the steps of reading it. -/
theorem steps_le : ∀ (v : Value), v.steps ≤ 2 * v.print.length
  | .null => by decide
  | .bool b => by cases b <;> decide
  | .number n => by
    obtain ⟨c, cs, hprint, -⟩ := print_eq_cons (.number n)
    rw [hprint, Value.steps, List.length_cons]
    · omega
    all_goals simp
  | .string s => by
    simp only [Value.steps, Value.print, quoteString, List.cons_append, List.length_cons]
    omega
  | .array items => by
    have hitems := stepsItems_le items
    simp only [Value.steps, Value.print, List.cons_append, List.length_cons, List.length_append,
      List.length_nil]
    omega
  | .object members => by
    have hmembers := stepsMembers_le members
    simp only [Value.steps, Value.print, List.cons_append, List.length_cons, List.length_append,
      List.length_nil]
    omega

/-- The bound for items. -/
theorem stepsItems_le : ∀ (vs : List Value),
    stepsItems vs ≤ 2 * (Value.printItems vs).length + 1
  | [] => by decide
  | [v] => by
    have h := steps_le v
    have hone := one_le_steps v
    simp only [stepsItems, Value.printItems]
    omega
  | v :: w :: vs => by
    have h := steps_le v
    have hrest := stepsItems_le (w :: vs)
    rw [stepsItems, Value.printItems, List.length_append, List.length_cons]
    omega

/-- The bound for members. -/
theorem stepsMembers_le : ∀ (ms : List (String × Value)),
    stepsMembers ms ≤ 2 * (Value.printMembers ms).length + 1
  | [] => by decide
  | [(name, v)] => by
    have h := steps_le v
    have hone := one_le_steps v
    simp only [stepsMembers, Value.printMembers, List.length_append, List.length_cons]
    omega
  | (name, v) :: m :: ms => by
    have h := steps_le v
    have hrest := stepsMembers_le (m :: ms)
    rw [stepsMembers, Value.printMembers, List.length_append, List.length_cons,
      List.length_append, List.length_cons]
    omega

end

/-- The compact text of a value is read back whole. -/
theorem readText_print (v : Value) :
    readText v.compact.toList = (Draft.written v, true) := by
  have hsteps : v.steps ≤ 2 * v.print.length + 2 := by
    have := steps_le v
    omega
  have h := readValue_print v hsteps Stops.nil
  rw [List.append_nil] at h
  rw [Value.compact, String.toList_ofList, readText, h]
  rfl

end AppBundle.Json
