import AppBundle.Proofs.Text.Search
import AppBundle.Reference
import Mathlib.Tactic.Common

/-!
# Schemes of URLs

Whatever is read as a URL has a scheme that begins with a letter: its own, that of its base, or that
of files. So the text of a URL never looks like a path relative to a folder. And a path relative to a
folder can be joined to every base that has segments (`Url.isSome_resolve?`).
-/

namespace AppBundle

open AppBundle.Text

namespace Url

variable {base u : Url} {base? : Option Url} {scheme cs rest : List Char} {c : Char}

/-- The scheme of a URL begins with a letter. -/
def LetterFirst (u : Url) : Prop :=
  ∃ c rest, u.scheme = c :: rest ∧ c.isAlpha = true

/-! ## Parts behind the scheme -/

@[simp] theorem scheme_withTail (u : Url) (cs : List Char) : (withTail u cs).scheme = u.scheme := by
  simp only [withTail]
  split
  · split <;> rfl
  · rfl
  · rfl

@[simp] theorem scheme_extendPath (u : Url) (path cs : List Char) :
    (extendPath u path cs).scheme = u.scheme := by
  simp [extendPath]

@[simp] theorem scheme_withFragment (u : Url) (cs : List Char) :
    (withFragment u cs).scheme = u.scheme := rfl

@[simp] theorem scheme_ofFilePath (path cs : List Char) :
    (ofFilePath path cs).scheme = ['f', 'i', 'l', 'e'] := by
  simp [ofFilePath]

/-! ## Readers -/

/-- Whatever an optional URL comes to, it has a scheme. -/
def Schemed (scheme : List Char) (u? : Option Url) : Prop :=
  ∀ u, u? = some u → u.scheme = scheme

namespace Schemed

variable {α : Type}

@[simp] theorem none : Schemed scheme none := by
  intro u h
  exact absurd h (by simp)

@[simp] theorem some_iff : Schemed scheme (some u) ↔ u.scheme = scheme := by
  constructor
  · intro h
    exact h u rfl
  · rintro h v hv
    rw [← Option.some.inj hv, h]

theorem bind {x : Option α} {f : α → Option Url} (h : ∀ a, Schemed scheme (f a)) :
    Schemed scheme (x.bind f) := by
  intro u hu
  obtain ⟨a, -, ha⟩ := Option.bind_eq_some_iff.mp hu
  exact h a u ha

end Schemed

theorem schemed_readAuthority? (scheme cs : List Char) :
    Schemed scheme (readAuthority? scheme cs) := by
  unfold readAuthority?
  refine .bind fun ⟨userinfo, behind⟩ => ?_
  dsimp only
  split
  all_goals
    refine .bind fun host => ?_
    split
    · simp
    · refine .bind fun ⟨number, tail⟩ => ?_
      dsimp only
      split <;> simp [apply_ite]

theorem schemed_readFileHost? (cs : List Char) :
    Schemed ['f', 'i', 'l', 'e'] (readFileHost? cs) := by
  simp only [readFileHost?]
  split
  · simp
  · refine .bind fun host => ?_
    split <;> simp

/-- Against the URL of a file, everything is the URL of a file. -/
theorem schemed_readFile? (hbase : ∀ b ∈ base?, b.scheme = ['f', 'i', 'l', 'e']) (cs : List Char) :
    Schemed ['f', 'i', 'l', 'e'] (readFile? base? cs) := by
  have hrooted : ∀ c rest, (readFile?.rooted base? c rest).scheme = ['f', 'i', 'l', 'e'] := by
    intro c rest
    simp only [readFile?.rooted]
    split
    · simp
    · split
      · simp
      · split
        · simp
        · simp [hbase]
  unfold readFile?
  split
  · split <;> simp [hbase]
  · split
    · split
      · split
        · exact schemed_readFileHost? _
        · simp [hrooted]
      · simp [hrooted]
    · split
      · simp
      · split
        · simp [hbase]
        · split
          · simp [hbase]
          · split <;> simp [hbase]

theorem schemed_readRelative? (base : Url) (cs : List Char) :
    Schemed base.scheme (readRelative? base cs) := by
  simp only [readRelative?]
  split
  · simp
  · simp
  · simp
  · split
    · split
      · split
        · exact schemed_readAuthority? _ _
        · simp
      · simp
    · simp

theorem eq_file_of_kind (h : SchemeKind.of scheme = .file) : scheme = ['f', 'i', 'l', 'e'] := by
  simp only [SchemeKind.of] at h
  split at h
  · next heq => simpa using congrArg String.toList heq
  · split at h <;> exact absurd h (by simp)

theorem schemed_readWithScheme? (base? : Option Url) (scheme cs : List Char) :
    Schemed scheme (readWithScheme? base? scheme cs) := by
  simp only [readWithScheme?]
  split
  · next hkind =>
    have hfile : scheme = ['f', 'i', 'l', 'e'] := eq_file_of_kind hkind
    subst hfile
    refine schemed_readFile? (fun b hb => ?_) cs
    split at hb
    · split at hb
      · next hscheme => rw [← Option.some.inj hb, hscheme]
      · exact absurd hb (by simp)
    · exact absurd hb (by simp)
  · split
    · split
      · next hb => exact hb.2 ▸ schemed_readRelative? _ _
      · exact schemed_readAuthority? _ _
    · exact schemed_readAuthority? _ _
  · split
    · exact schemed_readAuthority? _ _
    · simp
    · simp

/-! ## References -/

theorem eq_of_isGap (h : isGap c ≠ false) : c = '\t' ∨ c = '\n' ∨ c = '\r' := by
  rwa [Bool.ne_false_iff, isGap, Bool.or_eq_true, Bool.or_eq_true, beq_iff_eq, beq_iff_eq,
    beq_iff_eq, or_assoc] at h

theorem isUpper_iff : c.isUpper = true ↔ 'A'.val ≤ c.val ∧ c.val ≤ 'Z'.val := decide_eq_true_iff

theorem isLower_iff : c.isLower = true ↔ 'a'.val ≤ c.val ∧ c.val ≤ 'z'.val :=
  Bool.and_eq_true_iff.trans (and_congr decide_eq_true_iff decide_eq_true_iff)

theorem isAlpha_iff : c.isAlpha = true ↔ c.isUpper = true ∨ c.isLower = true := Bool.or_eq_true_iff

theorem isAlpha_toLower (h : c.isAlpha = true) : c.toLower.isAlpha = true := by
  by_cases hupper : c.isUpper = true
  · have hrange := isUpper_iff.mp hupper
    have hval : c.toLower.val = c.val + ('a'.val - 'A'.val) := congrArg Char.val (dif_pos hrange)
    refine isAlpha_iff.mpr (.inr (isLower_iff.mpr ?_))
    rw [hval]
    simp [UInt32.le_iff_toNat_le, UInt32.toNat_add] at hrange ⊢
    omega
  · have hsame : c.toLower = c := dif_neg (mt isUpper_iff.mpr hupper)
    rw [hsame, h]

/-- A scheme that is read begins with the letter in front of the text, in small. -/
theorem readScheme?_letterFirst (h : readScheme? cs = some (scheme, rest)) :
    ∃ c tail, scheme = c :: tail ∧ c.isAlpha = true := by
  cases cs with
  | nil => exact absurd h (by simp [readScheme?])
  | cons c cs =>
    simp only [readScheme?] at h
    split at h
    · next halpha =>
      have hsolid : isGap c = false := by
        by_contra hgap
        rcases eq_of_isGap hgap with rfl | rfl | rfl <;> exact absurd halpha (by decide)
      split at h
      · obtain ⟨rfl, -⟩ := Prod.mk.inj (Option.some.inj h)
        refine ⟨c.toLower, _, by rw [solid, List.filter_cons_of_pos (by simp [hsolid])]; rfl, ?_⟩
        exact isAlpha_toLower halpha
      · exact absurd h (by simp)
    · exact absurd h (by simp)

/-- A URL begins with a letter if the base does that it is read against. -/
theorem letterFirst_of_read? (hbase : ∀ b ∈ base?, b.LetterFirst) (h : read? base? cs = some u) :
    u.LetterFirst := by
  simp only [read?] at h
  split at h
  · next scheme rest hscheme =>
    obtain ⟨c, tail, hc, halpha⟩ := readScheme?_letterFirst hscheme
    exact ⟨c, tail, (schemed_readWithScheme? _ _ _ u h).trans hc, halpha⟩
  · obtain ⟨b, hb, h⟩ := Option.bind_eq_some_iff.mp h
    have hsame : u.scheme = b.scheme := by
      split at h
      · exact (Option.some.inj h) ▸ rfl
      · split at h
        · exact absurd h (by simp)
        · split at h
          · next hkind =>
            have hfile : b.scheme = ['f', 'i', 'l', 'e'] := eq_file_of_kind hkind
            have hread : u.scheme = ['f', 'i', 'l', 'e'] :=
              schemed_readFile? (by simpa using hfile) _ u h
            exact hread.trans hfile.symm
          · exact schemed_readRelative? _ _ u h
    obtain ⟨c, tail, hc, halpha⟩ := hbase b hb
    exact ⟨c, tail, hsame.trans hc, halpha⟩

/-- The text of a URL begins with its scheme. -/
theorem LetterFirst.text_eq (h : u.LetterFirst) :
    ∃ c rest, u.text = c :: rest ∧ c.isAlpha = true := by
  obtain ⟨c, tail, hc, halpha⟩ := h
  exact ⟨c, _, by rw [text, hc]; rfl, halpha⟩

theorem trimmed_cons (hc : 32 < c.toNat) (cs : List Char) :
    ∃ tail, trimmed (c :: cs) = c :: tail := by
  rw [trimmed, trimLeft, List.dropWhile_cons_of_neg (by simpa using hc)]
  exact trimRight_cons (by simpa using hc) cs

/-- What looks like a path relative to a folder can be joined to every base that has segments. -/
theorem isSome_resolve? (hbase : base.isOpaque = false) {reference : String}
    (hreference : reference.toList = c :: rest) (hc : 32 < c.toNat) (halpha : c.isAlpha = false)
    (hslash : isSlash c = false) (hends : endsPath c = false) :
    (resolve? base reference).isSome := by
  have hgap : isGap c = false := by
    by_contra hgap
    rcases eq_of_isGap hgap with rfl | rfl | rfl <;> exact absurd hc (by decide)
  obtain ⟨tail, htail⟩ := trimmed_cons hc rest
  -- the reference has no scheme of its own, and it is no query and no fragment
  have hscheme : readScheme? (c :: tail) = none := by
    simp [readScheme?, halpha]
  rw [endsPath, Bool.or_eq_false_iff, beq_eq_false_iff_ne, beq_eq_false_iff_ne] at hends
  rw [resolve?, read?, hreference, htail]
  simp only [hscheme, Option.bind_eq_bind, Option.bind_some]
  split
  · next heq => exact absurd (List.cons.inj heq).1 hends.2
  · rw [if_neg (by simp [hbase])]
    split
    · rw [readFile?, List.dropWhile_cons_of_neg (by simp [hgap])]
      simp only [hslash, Bool.false_eq_true, if_false, if_neg hends.1, if_neg hends.2]
      split <;> rfl
    · rw [readRelative?, solid, List.filter_cons_of_pos (by simp [hgap])]
      dsimp only
      split
      · next heq => exact absurd heq (by simp)
      · next heq => exact absurd (List.cons.inj heq).1 hends.1
      · next heq => exact absurd (List.cons.inj heq).1 hends.2
      · next heq =>
        obtain ⟨rfl, -⟩ := List.cons.inj heq
        rw [if_neg (by simp [hslash])]
        rfl

end Url

end AppBundle
