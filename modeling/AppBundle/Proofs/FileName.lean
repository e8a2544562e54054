import AppBundle.Locator
import AppBundle.Proofs.Text.Numeral
import AppBundle.Proofs.Text.Search
import Mathlib.Tactic.Common

/-!
# Names of files

The name of a file is what stands behind the last slash of its path, of either kind. A path names a
file if that is the name it ends in (`namesFile_iff`).
-/

namespace AppBundle

/-- Whether a character separates the parts of a path. -/
def isSlash (c : Char) : Bool := c = '/' || c = '\\'

/-- What stands behind the last slash of a path. -/
def fileName (path : String) : String :=
  String.ofList (path.toList.reverse.takeWhile (!isSlash ·)).reverse

/-- A string without a slash. -/
def SlashFree (s : String) : Prop := ∀ c ∈ s.toList, isSlash c = false

namespace SlashFree

@[simp] theorem append_iff {s t : String} : SlashFree (s ++ t) ↔ SlashFree s ∧ SlashFree t := by
  simp [SlashFree, or_imp, forall_and]

/-- The form for literals. -/
theorem ofChars {cs : List Char} (h : cs.any isSlash = false) :
    SlashFree (String.ofList cs) := by
  rw [SlashFree, String.toList_ofList]
  simpa using h

/-- Digits are no slashes. -/
@[simp] theorem decimal (n : Nat) : SlashFree (decimal n) := by
  intro c hc
  have hslash : c ≠ '/' := ne_of_mem_decimal (by decide) hc
  have hback : c ≠ '\\' := ne_of_mem_decimal (by decide) hc
  simp [isSlash, hslash, hback]

end SlashFree

/-- A path with a name behind a slash, or with nothing but the name, has that name. -/
theorem fileName_of_append {path name : String} (hname : SlashFree name) {front : List Char}
    (hpath : path.toList = front ++ name.toList)
    (hfront : ∀ c, front.getLast? = some c → isSlash c = true) : fileName path = name := by
  have hall : ∀ c ∈ name.toList.reverse, (!isSlash c) = true := by
    intro c hc
    rw [hname c (List.mem_reverse.mp hc)]
    rfl
  have hrest : front.reverse.takeWhile (!isSlash ·) = [] := by
    cases hrev : front.reverse with
    | nil => rfl
    | cons c cs =>
      have hlast : front.getLast? = some c := by
        rw [List.getLast?_eq_head?_reverse, hrev, List.head?_cons]
      rw [List.takeWhile_cons_of_neg (by simp [hfront c hlast])]
  rw [fileName, hpath, List.reverse_append, List.takeWhile_append_of_pos hall, hrest,
    List.append_nil, List.reverse_reverse, String.ofList_toList]

/-- A path is its name behind nothing or behind a slash. -/
theorem exists_append_fileName (path : String) :
    ∃ front, path.toList = front ++ (fileName path).toList ∧
      ∀ c, front.getLast? = some c → isSlash c = true := by
  refine ⟨(path.toList.reverse.dropWhile (!isSlash ·)).reverse, ?_, ?_⟩
  · have h := congrArg List.reverse
      (List.takeWhile_append_dropWhile (p := (!isSlash ·)) (l := path.toList.reverse))
    rw [List.reverse_append, List.reverse_reverse] at h
    rw [fileName, String.toList_ofList, h]
  · intro c hc
    rw [List.getLast?_reverse] at hc
    have hnot := List.head?_dropWhile_not (!isSlash ·) path.toList.reverse
    rw [hc] at hnot
    simpa using hnot

/-- A path names the file that it ends in. -/
theorem namesFile_iff {path name : String} (hname : SlashFree name) :
    namesFile path name = true ↔ fileName path = name := by
  constructor
  · intro h
    rw [namesFile, Bool.or_eq_true, decide_eq_true_eq] at h
    rcases h with rfl | h
    · exact fileName_of_append hname (List.nil_append _).symm (by simp)
    · split at h
      · next front hfront =>
        refine fileName_of_append hname (Text.before?_eq_some_iff.mp hfront) fun c hc => ?_
        simpa [hc, isSlash] using h
      · exact absurd h (by simp)
  · rintro rfl
    obtain ⟨front, hpath, hfront⟩ := exists_append_fileName path
    rw [namesFile, Text.before?_eq_some_iff.mpr hpath, Bool.or_eq_true]
    cases hlast : front.getLast? with
    | none =>
      have hnil : front = [] := List.getLast?_eq_none_iff.mp hlast
      rw [hnil, List.nil_append] at hpath
      exact .inl (by simpa using String.toList_inj.mp hpath)
    | some c => exact .inr (by simpa [isSlash, hlast] using hfront c hlast)

end AppBundle
