import AppBundle.Proofs.FileName
import AppBundle.Proofs.Url.Scheme

/-!
# Resolved references

Against an app file with a URL to which references can be joined, what a relative reference is
resolved to begins with a letter or a slash. So no reference comes to name a file beside the one
that holds it (`absoluteReference_ne_beside`).
-/

namespace AppBundle

open AppBundle.Text

/-- References can be joined to the URL of the app file. -/
def Joinable (sourceId : String) : Prop :=
  ∃ base, sourceUrl? sourceId = some base ∧ base.isOpaque = false

variable {sourceId reference : String}

/-- The URL of a path has segments. -/
theorem joinable_of_path (h : carriesScheme sourceId = false) : Joinable sourceId :=
  ⟨Url.ofPath sourceId.toList, by rw [sourceUrl?, if_neg (by simp [h])], rfl⟩

theorem letterFirst_of_sourceUrl? {base : Url} (h : sourceUrl? sourceId = some base) :
    base.LetterFirst := by
  rw [sourceUrl?] at h
  split at h
  · exact Url.letterFirst_of_read? (by simp) h
  · rw [← Option.some.inj h]
    exact ⟨'f', _, rfl, by decide⟩

/-- What a reference is resolved to begins with the letter of a scheme. -/
theorem letter_of_resolved {u : Url}
    (h : (sourceUrl? sourceId).bind (Url.resolve? · reference) = some u) :
    ∃ d tail, u.text = d :: tail ∧ d.isAlpha = true := by
  obtain ⟨base, hbase, hu⟩ := Option.bind_eq_some_iff.mp h
  exact (Url.letterFirst_of_read? (by simpa using letterFirst_of_sourceUrl? hbase) hu).text_eq

/-- A reference with a scheme does not begin with a sign. -/
theorem carriesScheme_eq_false {c : Char} {rest : List Char} (h : reference.toList = c :: rest)
    (hc : 32 < c.toNat) (halpha : c.isAlpha = false) : carriesScheme reference = false := by
  obtain ⟨tail, htail⟩ := Url.trimmed_cons hc rest
  rw [carriesScheme, Url.parse?, Url.read?, h, htail]
  simp [Url.readScheme?, halpha]

/-- What a reference that looks like a path is resolved to is the text of a URL. -/
theorem Joinable.absoluteReference (h : Joinable sourceId) {c : Char} {rest : List Char}
    (hreference : reference.toList = c :: rest) (hc : 32 < c.toNat) (halpha : c.isAlpha = false)
    (hslash : Url.isSlash c = false) (hends : Url.endsPath c = false) :
    ∃ d tail, (absoluteReference sourceId reference).toList = d :: tail ∧ d.isAlpha = true := by
  obtain ⟨base, hbase, hopaque⟩ := h
  obtain ⟨u, hu⟩ := Option.isSome_iff_exists.mp
    (Url.isSome_resolve? hopaque hreference hc halpha hslash hends)
  have hresolved : (sourceUrl? sourceId).bind (Url.resolve? · reference) = some u := by
    rw [hbase, Option.bind_some, hu]
  obtain ⟨d, tail, htext, hd⟩ := letter_of_resolved hresolved
  refine ⟨d, tail, ?_, hd⟩
  rw [AppBundle.absoluteReference, if_neg (by simp [carriesScheme_eq_false hreference hc halpha]),
    hresolved]
  simpa using htext

/-- A reference that begins with a slash stays as it is, or becomes the text of a URL. -/
theorem absoluteReference_of_slash (sourceId : String) {rest : List Char}
    (h : reference.toList = '/' :: rest) :
    absoluteReference sourceId reference = reference ∨
      ∃ d tail, (absoluteReference sourceId reference).toList = d :: tail ∧ d.isAlpha = true := by
  rw [absoluteReference]
  split
  · exact .inl rfl
  · split
    · next u hu =>
      right
      simpa using letter_of_resolved hu
    · left
      rw [joinFolder, if_pos]
      simp [beginsWith, h, after?]

theorem dropHere_eq_or (cs : List Char) : dropHere cs = cs ∨ ∃ rest, cs = '.' :: rest := by
  unfold dropHere
  split
  · exact .inr ⟨_, rfl⟩
  · exact .inl rfl

/-- A reference that is put behind a folder names a file beside the app file only if it begins with
a point or with the name of the file. -/
theorem head_of_joinFolder {file : String} (hfree : SlashFree file)
    (hjoin : joinFolder sourceId reference = "./" ++ file) :
    (∃ rest, reference.toList = '.' :: rest) ∨ reference.toList = file.toList := by
  rw [joinFolder] at hjoin
  split at hjoin
  · exact .inl ⟨'/' :: file.toList, by rw [hjoin]; simp⟩
  · have hchars : (folderOf sourceId).toList ++ '/' :: dropHere reference.toList =
        ['.'] ++ '/' :: file.toList := by
      simpa using congrArg String.toList hjoin
    have hnot : '/' ∉ file.toList := fun hmem => absurd (hfree _ hmem) (by decide)
    -- the only slash of the name is the one behind the folder
    have hname : dropHere reference.toList = file.toList := by
      rcases append_eq_append_cons hchars with ⟨more, -, hmore⟩ | ⟨more, hpoint, hmore⟩
      · exact absurd (by simp [hmore]) hnot
      · cases more with
        | nil => exact List.tail_eq_of_cons_eq hmore
        | cons d more =>
          have hd : d ∈ ['.'] := hpoint ▸ List.mem_append_right _ List.mem_cons_self
          obtain ⟨rfl, -⟩ := List.cons.inj hmore
          exact absurd hd (by decide)
    rcases dropHere_eq_or reference.toList with heq | hpoint
    · exact .inr (heq.symm.trans hname)
    · exact .inl hpoint

/-- No reference comes to name a file beside the one that holds it. -/
theorem Joinable.absoluteReference_ne_beside (h : Joinable sourceId) {file : String}
    (hfree : SlashFree file) {rest : List Char} (hfile : file.toList = '_' :: rest)
    (reference : String) : AppBundle.absoluteReference sourceId reference ≠ "./" ++ file := by
  intro heq
  have hhere : ("./" ++ file).toList = '.' :: '/' :: file.toList := by simp
  -- a reference that begins with a point or with the name has the text of a URL
  have hpath : ∀ {c cs}, reference.toList = c :: cs → c = '.' ∨ c = '_' → False := by
    intro c cs hreference hc
    obtain ⟨d, tail, htext, hd⟩ := h.absoluteReference hreference
      (by rcases hc with rfl | rfl <;> decide) (by rcases hc with rfl | rfl <;> decide)
      (by rcases hc with rfl | rfl <;> decide) (by rcases hc with rfl | rfl <;> decide)
    rw [heq, hhere] at htext
    obtain ⟨rfl, -⟩ := List.cons.inj htext
    exact absurd hd (by decide)
  have hcase := heq
  rw [AppBundle.absoluteReference] at hcase
  split at hcase
  · exact hpath (hcase ▸ hhere) (.inl rfl)
  · split at hcase
    · next u hu =>
      obtain ⟨d, tail, htext, hd⟩ := letter_of_resolved hu
      rw [← hcase, String.toList_ofList, htext] at hhere
      obtain ⟨rfl, -⟩ := List.cons.inj hhere
      exact absurd hd (by decide)
    · rcases head_of_joinFolder hfree hcase with ⟨cs, hcs⟩ | hcs
      · exact hpath hcs (.inl rfl)
      · exact hpath (hcs.trans hfile) (.inr rfl)

end AppBundle
