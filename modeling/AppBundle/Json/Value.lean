import AppBundle.Json.Number

/-!
# JSON values

A value of any shape. The members of an object keep their order; `Value.sorted` brings them into the
order of their names, a later member taking the place of an earlier one of the same name.
-/

namespace AppBundle.Json

/-- A JSON value. -/
inductive Value where
  /-- The empty value. -/
  | null
  /-- A truth value. -/
  | bool (b : Bool)
  /-- A number. -/
  | number (n : Number)
  /-- A string. -/
  | string (s : String)
  /-- A sequence of values. -/
  | array (items : List Value)
  /-- Named values, in the order in which they are written. -/
  | object (members : List (String × Value))
  deriving Repr, Inhabited

/-- A member put in its place among members sorted by name, in place of one of the same name. -/
def insertMember {α : Type} (name : String) (value : α) : List (String × α) → List (String × α)
  | [] => [(name, value)]
  | (n, v) :: rest =>
    if name < n then (name, value) :: (n, v) :: rest
    else if name = n then (name, value) :: rest
    else (n, v) :: insertMember name value rest

/-- The members sorted by name; of several of one name the last is kept. -/
def sortMembers {α : Type} (members : List (String × α)) : List (String × α) :=
  members.foldl (fun sorted (name, value) => insertMember name value sorted) []

namespace Value

mutual

/-- The value with the members of every object sorted by name. -/
def sorted : Value → Value
  | .array items => .array (sortedItems items)
  | .object members => .object (sortMembers (sortedMembers members))
  | .null => .null
  | .bool b => .bool b
  | .number n => .number n
  | .string s => .string s

/-- Every item sorted. -/
def sortedItems : List Value → List Value
  | [] => []
  | v :: rest => sorted v :: sortedItems rest

/-- Every member sorted within. -/
def sortedMembers : List (String × Value) → List (String × Value)
  | [] => []
  | (name, v) :: rest => (name, sorted v) :: sortedMembers rest

end

/-- A whole number as a value. -/
def nat (n : Nat) : Value :=
  .number (.integer n)

/-- A whole number with a sign as a value. -/
def int (i : Int) : Value :=
  .number (.integer i)

/-- A value that may be absent. -/
def optional {α : Type} (f : α → Value) : Option α → Value
  | none => .null
  | some a => f a

/-- A list as a value. -/
def list {α : Type} (f : α → Value) (as : List α) : Value :=
  .array (as.map f)

/-- A list of strings as a value. -/
def strings (ss : List String) : Value :=
  list .string ss

/-- The value of a member. -/
def member? (name : String) : Value → Option Value
  | .object members => (members.find? (·.1 = name)).map (·.2)
  | _ => none

end Value

end AppBundle.Json
