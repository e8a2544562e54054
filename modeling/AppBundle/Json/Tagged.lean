import AppBundle.Json.Shape

/-!
# Values that name their variant

A value of several variants that names its own: an object with a member for the name among the
others, or an array with the name in front. The rest of the value is set aside until the name is
known and is then read in the shape of the variant, so a fault anywhere in the text comes before a
mismatch of shape, and an unknown name comes before all that follows it.
-/

namespace AppBundle.Json

variable {α : Type}

/-- A variant: its name and the shape of the rest of its values. -/
abbrev Variant (α : Type) := String × Decoder α

/-- The variant that a draft names. -/
def Decoder.variant (variants : List (Variant α)) : Decoder (Decoder α)
  | _, .string (.ok name) none =>
    match variants.find? (·.1 = name) with
    | some (_, d) => .ok d
    | none => .error (.unknown name (variants.map (·.1)))
  | _, draft => draft.mismatch "variant identifier"

/-- The members of an object up to its end: the variant under the tag, if it is there, and the other
members. `found` is the variant met so far. -/
def readTagged (tag : String) (variants : List (Variant α)) (stop : Option Fault) :
    Option (Decoder α) → List (Except Fault String × Draft) →
      Except Mismatch (Option (Decoder α) × List (String × Value))
  | found, [] =>
    match stop with
    | none => .ok (found, [])
    | some f => .error (.fault f)
  | found, (name, draft) :: rest => do
    let name ← name.mapError Mismatch.fault
    if name = tag then
      if found.isSome then .error (.duplicate tag)
      else
        let d ← Decoder.variant variants .text draft
        readTagged tag variants stop (some d) rest
    else
      let value ← (draft.anyValue (Draft.depthLimit - 1)).mapError Mismatch.fault
      let (found, members) ← readTagged tag variants stop found rest
      return (found, (name, value) :: members)

/-- A value of several variants, under a name for messages. -/
def Decoder.tagged (name tag : String) (variants : List (Variant α)) : Decoder α
  | _, .object members stop => do
    let (found, members) ← readTagged tag variants stop none members
    match found with
    | none => .error (.missing tag)
    | some d => d .part (.object (Draft.ofMembers members) none)
  | _, .array [] stop =>
    match stop with
    | none => .error (.missing tag)
    | some f => .error (.fault f)
  | _, .array (first :: rest) stop => do
    let d ← Decoder.variant variants .text first
    let items ← (Draft.anyItems (Draft.depthLimit - 1) rest).mapError Mismatch.fault
    match stop with
    | some f => .error (.fault f)
    | none => d .part (.array (Draft.ofItems items) none)
  | _, draft => draft.mismatch name

/-- The rest of a variant that has nothing but its name; other members are passed over. -/
def Decoder.nameOnly (a : α) : Decoder α
  | origin, .array items stop => do
    excess origin 0 items.length items stop
    return a
  | _, _ => .ok a

/-- Any value. -/
def Decoder.any : Decoder Value
  | _, draft => (draft.anyValue Draft.depthLimit).mapError Mismatch.fault

end AppBundle.Json
