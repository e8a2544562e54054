/-!
# Line maps

Where the lines of a generated text come from. A line table knows for some of the lines, counted
from one, the line of the app file it repeats and the script or handler that line belongs to. Its
entries are kept in the order of the generated lines, at most one for each.
-/

namespace AppBundle

/-- Where a generated line comes from. -/
structure LineOrigin where
  /-- The line of the app file. -/
  line : Nat
  /-- The script or handler that it belongs to. -/
  owner : String
  /-- What it is, in words. -/
  description : String
  deriving Repr, DecidableEq

/-- The origins of generated lines. -/
structure LineTable where
  /-- The lines with their origins. -/
  entries : List (Nat × LineOrigin)
  /-- Every line stands behind the smaller ones. -/
  ascending : entries.Pairwise (·.1 < ·.1)

namespace LineTable

/-- No line has an origin. -/
def empty : LineTable := ⟨[], .nil⟩

/-- The entries with one line given an origin, in place of the one it had. -/
def insertEntry (line : Nat) (origin : LineOrigin) :
    List (Nat × LineOrigin) → List (Nat × LineOrigin)
  | [] => [(line, origin)]
  | (n, o) :: rest =>
    if line < n then (line, origin) :: (n, o) :: rest
    else if line = n then (line, origin) :: rest
    else (n, o) :: insertEntry line origin rest

/-- An entry is new or was there before. -/
theorem mem_insertEntry {line : Nat} {origin : LineOrigin} {es : List (Nat × LineOrigin)}
    {e : Nat × LineOrigin} (h : e ∈ insertEntry line origin es) : e = (line, origin) ∨ e ∈ es := by
  induction es with
  | nil => simpa [insertEntry] using h
  | cons x rest ih =>
    simp only [insertEntry] at h
    split at h
    · simpa using h
    · split at h
      · simp only [List.mem_cons] at h ⊢
        rcases h with h | h
        · exact Or.inl h
        · exact Or.inr (Or.inr h)
      · simp only [List.mem_cons] at h ⊢
        rcases h with h | h
        · exact Or.inr (Or.inl h)
        · rcases ih h with h | h
          · exact Or.inl h
          · exact Or.inr (Or.inr h)

theorem pairwise_insertEntry {line : Nat} {origin : LineOrigin} {es : List (Nat × LineOrigin)}
    (h : es.Pairwise (·.1 < ·.1)) : (insertEntry line origin es).Pairwise (·.1 < ·.1) := by
  induction es with
  | nil => simp [insertEntry]
  | cons x rest ih =>
    obtain ⟨hx, hr⟩ := List.pairwise_cons.1 h
    simp only [insertEntry]
    split
    · next hlt =>
      refine List.pairwise_cons.2 ⟨fun e he => ?_, h⟩
      rcases List.mem_cons.1 he with rfl | he
      · exact hlt
      · exact Nat.lt_trans hlt (hx e he)
    · split
      · next heq => exact List.pairwise_cons.2 ⟨fun e he => heq ▸ hx e he, hr⟩
      · next hlt heq =>
        refine List.pairwise_cons.2 ⟨fun e he => ?_, ih hr⟩
        rcases mem_insertEntry he with rfl | he
        · show x.1 < line
          omega
        · exact hx e he

/-- The map with one line given an origin, in place of the one it had. -/
def insert (m : LineTable) (line : Nat) (origin : LineOrigin) : LineTable :=
  ⟨insertEntry line origin m.entries, pairwise_insertEntry m.ascending⟩

/-- The map of pairs; of several pairs for one line the last counts. -/
def ofList (pairs : List (Nat × LineOrigin)) : LineTable :=
  pairs.foldl (fun m (line, origin) => m.insert line origin) empty

/-- The origin of a line. -/
def get? (m : LineTable) (line : Nat) : Option LineOrigin :=
  (m.entries.find? (·.1 = line)).map (·.2)

/-- The number of lines with an origin. -/
def size (m : LineTable) : Nat :=
  m.entries.length

/-- Whether no line has an origin. -/
def isEmpty (m : LineTable) : Bool :=
  m.entries.isEmpty

/-- The last entry up to a line. -/
def atOrBelow? (m : LineTable) (line : Nat) : Option (Nat × LineOrigin) :=
  (m.entries.takeWhile (·.1 ≤ line)).getLast?

/-- The first entry behind a line. -/
def above? (m : LineTable) (line : Nat) : Option (Nat × LineOrigin) :=
  (m.entries.dropWhile (·.1 ≤ line)).head?

/-- The entry nearest to a line, no further away than the radius; of two at the same distance the
one below. -/
def near? (m : LineTable) (line radius : Nat) : Option (Nat × LineOrigin) :=
  let below := (m.atOrBelow? line).filter fun e => line - e.1 ≤ radius
  let above := (m.above? line).filter fun e => e.1 - line ≤ radius
  match below, above with
  | some b, some a => if line - b.1 ≤ a.1 - line then some b else some a
  | some b, none => some b
  | none, a => a

/-- The first line that belongs to a script or handler. -/
def findOwner? (m : LineTable) (owner : String) : Option (Nat × LineOrigin) :=
  m.entries.find? (·.2.owner = owner)

end LineTable

end AppBundle
