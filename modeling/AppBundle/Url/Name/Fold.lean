import AppBundle.Text.Composition
import AppBundle.Url.Name.Expansions
import AppBundle.Url.Name.Folded
import AppBundle.Url.Name.Written

/-!
# Folding names

Names that look or sound the same are one name: capitals are folded into small letters, other forms
of a character into its plain form, and characters that count for nothing are dropped. What is left
is put in composed form.
-/

namespace AppBundle.Url

open AppBundle.Text

/-- The run that holds a character, and how far behind the first of the run the character stands.
`step` is the distance of the members of a run. -/
def findRun? (step n : Nat) (runs : List (Nat × Nat × Nat)) : Option (Nat × Nat) :=
  (runs.find? fun (first, count, _) =>
    first ≤ n && n < first + count * step && (n - first) % step = 0).map
      fun (first, _, target) => (n - first, target)

/-- What a character is folded into when it is not taken apart. -/
def foldPoint (n : Nat) : List Nat :=
  match findRun? 1 n foldedRuns with
  | some (i, target) => [target + i]
  | none =>
    match findRun? 2 n alternatingRuns with
    | some (i, target) => [target + i]
    | none =>
      match findRun? 1 n mergedRuns with
      | some (_, target) => [target]
      | none =>
        match (lowFolded ++ highFolded).find? (·.1 = n) with
        | some (_, target) => [target]
        | none =>
          match (lowExpansions ++ squareExpansions ++ highExpansions).find? (·.1 = n) with
          | some (_, targets) => targets
          | none => [n]

/-- What a character of a name is folded into: its parts are folded one by one. -/
def foldChar (c : Char) : List Char :=
  if c.toNat < 128 then [c.toLower]
  else if isSilent c then []
  else ((apart c.toNat).flatMap foldPoint).map Char.ofNat

/-- A folded name, if it is written with characters of names only. -/
def foldName? (name : List Char) : Option (List Char) :=
  if name.all isWritten then some (composed (name.flatMap foldChar)) else none

end AppBundle.Url
