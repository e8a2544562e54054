/-!
# Lines

Two readings of a text as lines. The *pieces* of a text are what stands between its line feeds, so a
text has one piece more than it has line feeds. Its *lines* are the pieces without their carriage
return, and a final empty piece is no line: the line feed before it ended the last one.

`unlines` puts pieces together again, each ended by a line feed.
-/

namespace AppBundle.Text

/-- The parts of a text between the occurrences of a separator; there is always at least one. -/
def split (sep : Char) : List Char → List (List Char)
  | [] => [[]]
  | c :: rest =>
    if c = sep then [] :: split sep rest
    else match split sep rest with
      | [] => [[c]]
      | piece :: pieces => (c :: piece) :: pieces

/-- The parts of a text between its line feeds. -/
def pieces (cs : List Char) : List (List Char) :=
  split '\n' cs

/-- The parts put together with a separator between them. -/
def join (sep : List Char) : List (List Char) → List Char
  | [] => []
  | [p] => p
  | p :: q :: rest => p ++ sep ++ join sep (q :: rest)

/-- The lines put together, each ended by a line feed. -/
def unlines : List (List Char) → List Char
  | [] => []
  | l :: rest => l ++ '\n' :: unlines rest

/-- A line without the carriage return that ends it. -/
def dropReturn (cs : List Char) : List Char :=
  match cs.getLast? with
  | some '\r' => cs.dropLast
  | _ => cs

/-- The lines among the pieces of a text: every piece but the last was ended by a line feed, and may
have a carriage return before it; the last counts only if it is not empty. -/
def linesOfPieces : List (List Char) → List (List Char)
  | [] => []
  | [last] => if last.isEmpty then [] else [last]
  | p :: q :: rest => dropReturn p :: linesOfPieces (q :: rest)

/-- The lines of a text. -/
def lines (cs : List Char) : List (List Char) :=
  linesOfPieces (pieces cs)

/-- The number of line feeds. -/
def countFeeds (cs : List Char) : Nat :=
  cs.count '\n'

/-! ## Small lemmas -/

theorem split_ne_nil (sep : Char) (cs : List Char) : split sep cs ≠ [] := by
  cases cs with
  | nil => simp [split]
  | cons c rest =>
    simp only [split]
    split
    · simp
    · split <;> simp

theorem split_cons_self (sep : Char) (cs : List Char) :
    split sep (sep :: cs) = [] :: split sep cs := by
  rw [split, if_pos rfl]

/-- Any other character stands at the head of the first part. -/
theorem exists_split_cons {sep c : Char} (hc : c ≠ sep) (cs : List Char) :
    ∃ p ps, split sep cs = p :: ps ∧ split sep (c :: cs) = (c :: p) :: ps := by
  obtain ⟨p, ps, hs⟩ := List.exists_cons_of_ne_nil (split_ne_nil sep cs)
  exact ⟨p, ps, hs, by rw [split, if_neg hc, hs]⟩

theorem length_pieces (cs : List Char) : (pieces cs).length = countFeeds cs + 1 := by
  induction cs with
  | nil => rfl
  | cons c rest ih =>
    rw [pieces, countFeeds] at ih ⊢
    by_cases hc : c = '\n'
    · rw [hc, split_cons_self, List.length_cons, ih, List.count_cons_self]
    · obtain ⟨p, ps, hs, hcons⟩ := exists_split_cons hc rest
      rw [hs, List.length_cons] at ih
      rw [hcons, List.length_cons, ih, List.count_cons_of_ne hc]

end AppBundle.Text

namespace AppBundle

/-- The number of lines of a text, counting what follows the last line feed as one. -/
def countLines (text : String) : Nat :=
  (Text.pieces text.toList).length

/-- The lines of a string. -/
def stringLines (s : String) : List String :=
  (Text.lines s.toList).map String.ofList

end AppBundle
