import AppBundle.Json.Draft
import AppBundle.Text.Quoted

/-!
# Reading values of a given shape

A `Decoder` turns a draft into a value of some type or says why it cannot. The first reason met in
the order of the text is the one reported: the fault that ended the text, a value of the wrong kind,
a member given twice. Members that no field asks for are passed over, and fields without a member
are reported last, in the order in which the fields are declared.

A record may also be written as an array of its fields in the order of their declaration. How too
many items are reported depends on where the draft comes from.
-/

namespace AppBundle.Json

/-- Where a draft comes from. -/
inductive Origin where
  /-- It is read from a text. -/
  | text
  /-- It is a value that is at hand. -/
  | value
  /-- It is a part of a text that was set aside before its shape was known. -/
  | part
  deriving Repr, DecidableEq

/-- What stands where something else was expected. -/
inductive Found where
  /-- The empty value. -/
  | null
  /-- A truth value. -/
  | bool (b : Bool)
  /-- A number. -/
  | number (n : Number)
  /-- A string. -/
  | string (s : String)
  /-- An array. -/
  | sequence
  /-- An object. -/
  | map
  deriving Repr, DecidableEq

/-- Why a draft is not of the expected shape. -/
inductive Mismatch where
  /-- The text is at fault. -/
  | fault (f : Fault)
  /-- A value of another kind. -/
  | kind (found : Found) (expected : String)
  /-- A value of the right kind that is out of bounds. -/
  | bounds (found : Found) (expected : String)
  /-- An array of the wrong length. -/
  | length (length : Nat) (expected : String)
  /-- A field without a member. -/
  | missing (field : String)
  /-- A field with two members. -/
  | duplicate (field : String)
  /-- A name outside a list of names. -/
  | unknown (name : String) (expected : List String)
  deriving Repr, DecidableEq

/-- The wording of what was found. -/
def Found.describe : Found → String
  | .null => "null"
  | .bool b => "boolean `" ++ (if b then "true" else "false") ++ "`"
  | .number (.integer i) => "integer `" ++ signedDecimal i ++ "`"
  | .number n => "floating point `" ++ String.ofList n.text ++ "`"
  | .string s => "string " ++ quoted s
  | .sequence => "sequence"
  | .map => "map"

/-- A name in a message. -/
def named (name : String) : String :=
  "`" ++ name ++ "`"

/-- The wording of a mismatch. -/
def Mismatch.message : Mismatch → String
  | .fault f => f.message
  | .kind found expected => "invalid type: " ++ found.describe ++ ", expected " ++ expected
  | .bounds found expected => "invalid value: " ++ found.describe ++ ", expected " ++ expected
  | .length n expected => "invalid length " ++ decimal n ++ ", expected " ++ expected
  | .missing field => "missing field " ++ named field
  | .duplicate field => "duplicate field " ++ named field
  | .unknown name expected =>
    "unknown variant " ++ named name ++ ", expected one of "
      ++ String.intercalate ", " (expected.map named)

/-- A reader of drafts. -/
def Decoder (α : Type) : Type :=
  Origin → Draft → Except Mismatch α

/-- The kind of a draft that was not expected; a fault of the text comes first. -/
def Draft.found : Draft → Except Fault Found
  | .null => .ok .null
  | .bool b => .ok (.bool b)
  | .number n =>
    match n.rounded? with
    | some n => .ok (.number n)
    | none => .error .numberOutOfRange
  | .string text stop =>
    match text, stop with
    | .error f, _ => .error f
    | .ok _, some f => .error f
    | .ok s, none => .ok (.string s)
  | .array _ _ => .ok .sequence
  | .object _ _ => .ok .map
  | .fault f => .error f

/-- A draft of another kind than expected. -/
def Draft.mismatch {α : Type} (d : Draft) (expected : String) : Except Mismatch α :=
  match d.found with
  | .ok found => .error (.kind found expected)
  | .error f => .error (.fault f)

namespace Decoder

variable {α β : Type}

/-- The decoder with a function applied to what it reads. -/
def map (f : α → β) (d : Decoder α) : Decoder β :=
  fun origin draft => (d origin draft).map f

/-- A string. -/
def string : Decoder String
  | _, .string (.ok s) none => .ok s
  | _, d => d.mismatch "a string"

/-- A truth value. -/
def bool : Decoder Bool
  | _, .bool b => .ok b
  | _, d => d.mismatch "a boolean"

/-- A whole number between two bounds. -/
def whole (low high : Int) (expected : String) : Decoder Int
  | _, .number (.integer i) =>
    if low ≤ i ∧ i ≤ high then .ok i else .error (.bounds (.number (.integer i)) expected)
  | _, d => d.mismatch expected

/-- A number of 32 bits without a sign. -/
def word32 : Decoder Nat :=
  (whole 0 Text.maxWord32 "u32").map Int.toNat

/-- A number of 64 bits without a sign. -/
def size : Decoder Nat :=
  (whole 0 Text.maxWord64 "usize").map Int.toNat

/-- A number of 64 bits with a sign. -/
def signed64 : Decoder Int :=
  whole Number.minSigned64 Number.maxSigned64 "i64"

/-- A value that may be empty. -/
def optional (d : Decoder α) : Decoder (Option α)
  | _, .null => .ok none
  | origin, draft => (d origin draft).map some

/-- The items of an array up to its end. -/
def items (d : Decoder α) (origin : Origin) (stop : Option Fault) :
    List Draft → Except Mismatch (List α)
  | [] =>
    match stop with
    | none => .ok []
    | some f => .error (.fault f)
  | x :: rest => do
    let a ← d origin x
    let as ← items d origin stop rest
    return a :: as

/-- An array of values of one shape. -/
def list (d : Decoder α) : Decoder (List α)
  | origin, .array xs stop => d.items origin stop xs
  | _, draft => draft.mismatch "a sequence"

/-- A word of a list that stands for a value, written as a string or as an object with that single
name and an empty value. -/
def choice (names : List (String × α)) : Decoder α := fun origin draft =>
  let ofName (name : String) : Except Mismatch α :=
    match names.find? (·.1 = name) with
    | some (_, a) => .ok a
    | none => .error (.unknown name (names.map (·.1)))
  let empty : Draft → Except Mismatch Unit
    | .null => .ok ()
    | d => d.mismatch "unit"
  match draft with
  | .string (.ok s) none => ofName s
  | .object ((name, content) :: rest) stop =>
    if origin = .text then do
      let a ← match name with
        | .ok name => ofName name
        | .error f => .error (.fault f)
      empty content
      match rest, stop with
      | [], none => return a
      | [], some .endOfObject => .error (.fault .endOfObject)
      | _, _ => .error (.fault .expectedValue)
    else
      match rest, name with
      | [], .ok name => do
        let a ← ofName name
        empty content
        return a
      | _, _ => .error (.bounds .map "map with a single key")
  | .object [] stop =>
    if origin = .text then .error (.fault (stop.getD .expectedValue))
    else .error (.bounds .map "map with a single key")
  | d =>
    if origin = .text then
      match d with
      | .string text stop =>
        match text, stop with
        | .error f, _ => .error (.fault f)
        | .ok _, some f => .error (.fault f)
        | .ok _, none => .error (.fault .expectedValue)
      | .fault f =>
        let before := f ∈ [.endOfValue, .endOfObject, .expectedColon]
        .error (.fault (if before then f else .expectedValue))
      | _ => .error (.fault .expectedValue)
    else d.mismatch "string or map"

end Decoder

/-! ## Arrays of fixed length -/

/-- What follows the last field of a record or pair that is written as an array of `count` items. -/
def excess (origin : Origin) (count total : Nat) (rest : List Draft) (stop : Option Fault) :
    Except Mismatch Unit :=
  match origin with
  | .text =>
    match rest, stop with
    | [], none => .ok ()
    | [], some .commaBeforeArrayEnd => .error (.fault .commaBeforeArrayEnd)
    | [], some .endOfArray => .error (.fault .endOfArray)
    | _, _ => .error (.fault .textAfterValue)
  | .value => if rest.isEmpty then .ok () else .error (.length total "fewer elements in array")
  | .part =>
    if rest.isEmpty then .ok ()
    else
      let expected := if count = 1 then "1 element" else decimal count ++ " elements"
      .error (.length total (expected ++ " in sequence"))

/-- An array of two values of different shapes. -/
def Decoder.pair {α β : Type} (first : Decoder α) (second : Decoder β) : Decoder (α × β)
  | origin, .array xs stop =>
    let expected := "a tuple of size 2"
    let short (n : Nat) : Except Mismatch (α × β) :=
      match stop with
      | some f => .error (.fault f)
      | none => .error (.length n expected)
    match xs with
    | [] => short 0
    | x :: rest => do
      let a ← first origin x
      match rest with
      | [] => short 1
      | y :: rest => do
        let b ← second origin y
        excess origin 2 xs.length rest stop
        return (a, b)
  | _, draft => draft.mismatch "a tuple of size 2"

/-! ## Records -/

/-- A field of a record, over the slots in which the fields are collected. -/
structure Field (σ : Type) where
  /-- The name of its member. -/
  name : String
  /-- Whether it has been read. -/
  filled : σ → Bool
  /-- Reads it into its slot. -/
  fill : Origin → Draft → σ → Except Mismatch σ
  /-- Puts its default into its slot, if it has one. -/
  fallback : Option (σ → σ)

/-- The shape of a record: slots for its fields, and the record made of filled slots. -/
structure Shape (α : Type) where
  /-- The slots in which the fields are collected. -/
  Slots : Type
  /-- The slots before anything is read. -/
  empty : Slots
  /-- The fields in the order of their declaration. -/
  fields : List (Field Slots)
  /-- The record, or the first field that is missing. -/
  finish : Slots → Except Mismatch α

namespace Shape

variable {α β : Type}

/-- A field that has to be there. -/
def required (name : String) (d : Decoder α) : Shape α where
  Slots := Option α
  empty := none
  fields := [{
    name
    filled := Option.isSome
    fill := fun origin draft _ => (d origin draft).map some
    fallback := none }]
  finish
    | some a => .ok a
    | none => .error (.missing name)

/-- A field with a default. -/
def withDefault (name : String) (default : α) (d : Decoder α) : Shape α where
  Slots := Option α
  empty := none
  fields := [{
    name
    filled := Option.isSome
    fill := fun origin draft _ => (d origin draft).map some
    fallback := some fun _ => some default }]
  finish slot := .ok (slot.getD default)

/-- A field of a shape, over the first of two slots. -/
def onFirst {σ τ : Type} (f : Field σ) : Field (σ × τ) where
  name := f.name
  filled s := f.filled s.1
  fill origin draft s := (f.fill origin draft s.1).map (·, s.2)
  fallback := f.fallback.map fun g s => (g s.1, s.2)

/-- A field of a shape, over the second of two slots. -/
def onSecond {σ τ : Type} (f : Field τ) : Field (σ × τ) where
  name := f.name
  filled s := f.filled s.2
  fill origin draft s := (f.fill origin draft s.2).map (s.1, ·)
  fallback := f.fallback.map fun g s => (s.1, g s.2)

/-- The fields of two shapes one after the other. -/
def and (a : Shape α) (b : Shape β) : Shape (α × β) where
  Slots := a.Slots × b.Slots
  empty := (a.empty, b.empty)
  fields := a.fields.map onFirst ++ b.fields.map onSecond
  finish s := do
    let x ← a.finish s.1
    let y ← b.finish s.2
    return (x, y)

/-- The shape with a function applied to what it reads. -/
def map (f : α → β) (a : Shape α) : Shape β where
  Slots := a.Slots
  empty := a.empty
  fields := a.fields
  finish s := (a.finish s).map f

/-- Reads the members of an object into the slots. -/
def readMembers {σ : Type} (fields : List (Field σ)) (origin : Origin) (stop : Option Fault) :
    List (Except Fault String × Draft) → σ → Except Mismatch σ
  | [], s =>
    match stop with
    | none => .ok s
    | some f => .error (.fault f)
  | (name, draft) :: rest, s => do
    let name ← name.mapError Mismatch.fault
    match fields.find? (·.name = name) with
    | none =>
      draft.passOver.mapError Mismatch.fault
      readMembers fields origin stop rest s
    | some field =>
      if field.filled s then .error (.duplicate field.name)
      else readMembers fields origin stop rest (← field.fill origin draft s)

/-- Reads the items of an array into the slots, one for each field, and returns the items left. `n`
is the number of items read. -/
def readItems {σ : Type} (origin : Origin) (stop : Option Fault) (expected : String) :
    Nat → List (Field σ) → List Draft → σ → Except Mismatch (List Draft × σ)
  | _, [], rest, s => .ok (rest, s)
  | n, field :: fields, draft :: rest, s => do
    readItems origin stop expected (n + 1) fields rest (← field.fill origin draft s)
  | n, field :: fields, [], s =>
    match stop, field.fallback with
    | some f, _ => .error (.fault f)
    | none, some g => readItems origin stop expected (n + 1) fields [] (g s)
    | none, none => .error (.length n expected)

/-- A record of a given name. -/
def record (name : String) (shape : Shape α) : Decoder α
  | origin, .object members stop => do
    let s ← readMembers shape.fields origin stop members shape.empty
    shape.finish s
  | origin, .array xs stop => do
    let count := shape.fields.length
    let elements := if count = 1 then "1 element" else decimal count ++ " elements"
    let expected := name ++ " with " ++ elements
    let (rest, s) ← readItems origin stop expected 0 shape.fields xs shape.empty
    excess origin count xs.length rest stop
    shape.finish s
  | _, draft => draft.mismatch name

end Shape

/-- The value of a shape that a text holds. -/
def Decoder.readText {α : Type} (d : Decoder α) (text : String) : Except Mismatch α := do
  let (draft, complete) := Json.readText text.toList
  let a ← d .text draft
  if complete then return a else .error (.fault .textAfterValue)

/-- The value of a shape that a value holds. -/
def Decoder.readValue {α : Type} (d : Decoder α) (v : Value) : Except Mismatch α :=
  d .value (Draft.ofValue v)

end AppBundle.Json
