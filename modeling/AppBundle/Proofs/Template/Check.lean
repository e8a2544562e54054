import AppBundle.Proofs.Template.Calls
import AppBundle.Proofs.Text.Count
import AppBundle.Template.Check
import Mathlib.Data.List.Basic
import Mathlib.Data.List.Nodup

/-!
# What checking a spliced template reports

A call in a template is found by its beginning: the name of the registry, a dot, the name of the
handler and a parenthesis. If the template had no such mark before, every mark in the result is that
of a call that was put in (`mark_of_after`): the dot of a mark lies in what was kept of the template
or in a call, a call has a single dot, and no mark can reach over the quote that ends a call. So a
handler is called once if its attribute was replaced and never otherwise, and checking reports the
handlers that were skipped (`checkHandlers_spliceHandlers`).
-/

namespace AppBundle

open AppBundle.Text

/-! ## The mark of a call -/

/-- What every call begins with: the name of the registry and a dot. -/
def callMark : List Char :=
  registryName.toList ++ ['.']

namespace Handler

variable (h : Handler)

/-- What stands in front of the mark in the attribute that calls a handler. -/
def callFront : List Char :=
  h.attr.toList ++ ['=', '"']

/-- What stands between the mark and the quote that ends the attribute. -/
def callBack : List Char :=
  h.id.toList ++ '(' :: ((String.intercalate ", " h.params).toList ++ [')'])

theorem toList_callText :
    h.callText.toList = h.callFront ++ callMark ++ (h.callBack ++ ['"']) := by
  simp [callText, callFront, callMark, callBack]

theorem toList_callStart : h.callStart.toList = callMark ++ (h.id.toList ++ ['(']) := by
  simp [callStart, callMark]

/-- The labels of a handler cannot be mistaken in its call: none holds a dot, and its name has no
parenthesis that would end it. -/
structure PlainLabels : Prop where
  id : '.' ∉ h.id.toList
  attr : '.' ∉ h.attr.toList
  params : ∀ p ∈ h.params, '.' ∉ p.toList
  unclosed : '(' ∉ h.id.toList

variable {h}

theorem PlainLabels.callFront (hh : h.PlainLabels) : '.' ∉ h.callFront ++ registryName.toList := by
  have hrest : '.' ∉ ['=', '"'] ++ registryName.toList := by decide
  rw [Handler.callFront, List.append_assoc, List.mem_append, not_or]
  exact ⟨hh.attr, hrest⟩

theorem PlainLabels.callBack (hh : h.PlainLabels) : '.' ∉ h.callBack ++ ['"'] := by
  have hparams : '.' ∉ (String.intercalate ", " h.params).toList :=
    notMem_intercalate (by decide) hh.params
  simp only [Handler.callBack, List.mem_append, List.mem_cons, not_or]
  exact ⟨⟨hh.id, by decide, hparams, by decide⟩, by decide⟩

end Handler

/-- Every mark in a text of patches is that of a call, if what is kept between them holds none. -/
theorem mark_of_after {ps : List Patch} {kept front behind : List Char}
    (hps : ∀ p ∈ ps, p.handler.PlainLabels ∧ ¬ callMark <:+: p.kept) (hkept : ¬ callMark <:+: kept)
    (h : Patch.after ps ++ kept = front ++ callMark ++ behind) :
    ∃ qs p rs, ps = qs ++ p :: rs ∧ front = Patch.after qs ++ (p.kept ++ p.handler.callFront) ∧
      behind = p.handler.callBack ++ '"' :: (Patch.after rs ++ kept) := by
  induction ps generalizing front with
  | nil => exact absurd ⟨front, behind, h.symm⟩ hkept
  | cons p ps ih =>
    obtain ⟨hplain, hmark⟩ := hps p List.mem_cons_self
    have htext : p.kept ++ ((p.handler.callFront ++ registryName.toList) ++
        '.' :: ((p.handler.callBack ++ ['"']) ++ (Patch.after ps ++ kept))) =
          (front ++ registryName.toList) ++ '.' :: behind := by
      simpa [Patch.after, Handler.toList_callText, callMark] using h
    -- the dot of the mark is none of what is kept in front of the call
    obtain ⟨rest, hp, -⟩ | ⟨rest, hfront, htext⟩ := append_eq_append_cons htext
    · exact absurd ⟨front, rest, by simp [hp, callMark]⟩ hmark
    obtain ⟨more, hp, -⟩ | ⟨more, hrest, htext⟩ := append_eq_append_cons htext
    · exact absurd (by simp [hp]) hplain.callFront
    cases more with
    | nil =>
      -- it is the dot of the call
      rw [List.append_nil] at hrest
      have hbehind := List.tail_eq_of_cons_eq htext
      rw [hrest, ← List.append_assoc] at hfront
      refine ⟨[], p, ps, rfl, ?_, ?_⟩
      · exact List.append_cancel_right hfront
      · simpa using hbehind.symm
    | cons d more =>
      obtain ⟨rfl, htail⟩ := List.cons.inj htext
      obtain ⟨most, hp, -⟩ | ⟨most, hmore, hlater⟩ := append_eq_append_cons htail
      · exact absurd (by simp [hp]) hplain.callBack
      -- it stands behind the quote that ends the call, and so does the name in front of it
      have hquote : front ++ registryName.toList =
          (p.kept ++ p.handler.callFront ++ callMark ++ p.handler.callBack) ++ '"' :: most := by
        rw [hfront, hrest, hmore]
        simp [callMark]
      obtain ⟨mid, hfront, hmost⟩ | ⟨mid, -, hname⟩ := append_eq_append_cons hquote
      · have hbehind : Patch.after ps ++ kept = mid ++ callMark ++ behind := by
          rw [hlater, hmost]
          simp [callMark]
        obtain ⟨qs, q, rs, rfl, rfl, hback⟩ :=
          ih (fun q hq => hps q (List.mem_cons_of_mem p hq)) hbehind
        refine ⟨p :: qs, q, rs, rfl, ?_, hback⟩
        rw [hfront]
        simp [Patch.after, Handler.toList_callText]
      · have hmem : '"' ∈ registryName.toList := by simp [hname]
        exact absurd hmem (by decide)

/-! ## Counting calls -/

section Count

variable {ps : List Patch} {kept : List Char} {h : Handler}

/-- The beginning of a call of a handler stands where a handler of its name is called. -/
theorem start_of_after
    (hps : ∀ p ∈ ps, p.handler.PlainLabels ∧ ¬ callMark <:+: p.kept) (hkept : ¬ callMark <:+: kept)
    (hid : '(' ∉ h.id.toList) {front back : List Char}
    (heq : Patch.after ps ++ kept = front ++ (h.callStart.toList ++ back)) :
    ∃ qs p rs, ps = qs ++ p :: rs ∧ front = Patch.after qs ++ (p.kept ++ p.handler.callFront) ∧
      p.handler.id = h.id := by
  have hmark : Patch.after ps ++ kept = front ++ callMark ++ (h.id.toList ++ '(' :: back) := by
    rw [heq, Handler.toList_callStart]
    simp
  obtain ⟨qs, p, rs, rfl, hfront, hback⟩ := mark_of_after hps hkept hmark
  refine ⟨qs, p, rs, rfl, hfront, String.toList_inj.mp ?_⟩
  have hname := congrArg (List.takeWhile (· ≠ '(')) hback
  rw [takeWhile_ne_append hid, Handler.callBack, List.append_assoc, List.cons_append,
    takeWhile_ne_append (hps p (by simp)).1.unclosed] at hname
  exact hname.symm

/-- A handler whose name no patch calls is called nowhere. -/
theorem count_of_notMem
    (hps : ∀ p ∈ ps, p.handler.PlainLabels ∧ ¬ callMark <:+: p.kept) (hkept : ¬ callMark <:+: kept)
    (hid : '(' ∉ h.id.toList) (hnot : h.id ∉ ps.map (·.handler.id)) :
    count h.callStart.toList (Patch.after ps ++ kept) = 0 := by
  refine count_eq_zero ?_
  rintro ⟨front, back, heq⟩
  rw [List.append_assoc] at heq
  obtain ⟨qs, p, rs, rfl, -, hname⟩ := start_of_after hps hkept hid heq.symm
  exact hnot (by simp [← hname])

/-- The handler of a patch is called once if no other patch calls its name. -/
theorem count_of_mem
    (hps : ∀ p ∈ ps, p.handler.PlainLabels ∧ ¬ callMark <:+: p.kept) (hkept : ¬ callMark <:+: kept)
    (hnodup : (ps.map (·.handler.id)).Nodup) {p : Patch} (hp : p ∈ ps) :
    count p.handler.callStart.toList (Patch.after ps ++ kept) = 1 := by
  have hid : '(' ∉ p.handler.id.toList := (hps p hp).1.unclosed
  obtain ⟨qs, rs, hsplit⟩ := List.append_of_mem hp
  -- the place of the call
  have htext : Patch.after ps ++ kept = Patch.after qs ++ (p.kept ++ p.handler.callFront) ++
      (p.handler.callStart.toList ++ ((String.intercalate ", " p.handler.params).toList ++ [')', '"']
        ++ (Patch.after rs ++ kept))) := by
    rw [hsplit, Patch.after_append, Handler.toList_callStart]
    simp [Patch.after, Handler.toList_callText, Handler.callBack]
  rw [htext]
  refine count_eq_one ?_ fun front back heq => ?_
  · simp [Handler.toList_callStart, callMark]
  · obtain ⟨qs', q, rs', hsplit', hfront, hname⟩ :=
      start_of_after hps hkept hid (htext.trans heq)
    have hq : q = p := List.inj_on_of_nodup_map hnodup (by simp [hsplit']) hp hname
    have hps' := hnodup.of_map
    rw [hsplit, List.nodup_middle, List.nodup_cons, List.mem_append, not_or] at hps'
    have hsame := hsplit.symm.trans hsplit'
    rw [hq, List.append_cons_inj_of_notMem hps'.1.1 hps'.1.2] at hsame
    rw [hfront, hsame.1, hq]

end Count

/-! ## The report on a spliced template -/

/-- What is kept between patches of a template without marks has none. -/
theorem not_mark_of_before {ps : List Patch} {kept : List Char}
    (h : ¬ callMark <:+: Patch.before ps ++ kept) :
    (∀ p ∈ ps, ¬ callMark <:+: p.kept) ∧ ¬ callMark <:+: kept := by
  refine ⟨fun p hp hmark => h ?_, fun hmark => h (hmark.trans (List.suffix_append _ _).isInfix)⟩
  obtain ⟨qs, rs, rfl⟩ := List.append_of_mem hp
  have hpart : p.kept <:+: Patch.before (qs ++ p :: rs) ++ kept :=
    ⟨Patch.before qs, p.old ++ Patch.before rs ++ kept, by simp [Patch.before]⟩
  exact hmark.trans hpart

/-- The handlers that have a place in the template are those that do not answer to sign-in. -/
theorem mem_placedHandlers {h : Handler} {hs : List Handler} :
    h ∈ placedHandlers hs ↔ h ∈ hs ∧ h.isSignIn = false := by
  rw [placedHandlers, List.mem_mergeSort, List.mem_filter, Bool.not_eq_true']

section Report

variable {template : String} {hs : List Handler}

/-- Each handler that has a place in the template has its attribute replaced or is skipped. -/
theorem perm_placedHandlers (template : String) (hs : List Handler) :
    (replaceable template.toList (byteLength template.toList) (placedHandlers hs) ++
      (spliceHandlers template hs).skipped.map (·.1)).Perm (placedHandlers hs) := by
  have hperm := skipped_perm (.start template) (placedHandlers hs)
    (List.append_nil template.toList).symm
  have hstart : (Splicing.start template).skipped.map (·.1) = [] := rfl
  rwa [hstart, List.append_nil] at hperm

theorem nodup_placedHandlers (hids : (hs.map (·.id)).Nodup) :
    ((placedHandlers hs).map (·.id)).Nodup := by
  refine ((List.mergeSort_perm _ _).map _).nodup_iff.mpr ?_
  exact hids.sublist (List.filter_sublist.map _)

/-- A handler is called once in a spliced template, unless it was skipped. -/
theorem calls_spliceHandlers (htemplate : occursIn (registryName ++ ".") template = false)
    (hids : (hs.map (·.id)).Nodup) (hplain : ∀ h ∈ hs, h.PlainLabels) {h : Handler} (hh : h ∈ hs)
    (hsign : h.isSignIn = false) :
    h.calls (spliceHandlers template hs).text =
      if h ∈ (spliceHandlers template hs).skipped.map (·.1) then 0 else 1 := by
  have hinj : ∀ g ∈ hs, g.id = h.id → g = h := fun g hg heq =>
    List.inj_on_of_nodup_map hids hg hh heq
  have hperm := perm_placedHandlers template hs
  have hnodup := nodup_placedHandlers hids
  have hdisjoint := List.nodup_append.mp (hperm.nodup_iff.mpr hnodup.of_map)
  obtain ⟨ps, kept, hbefore, hafter, -, hmap⟩ := exists_patches (.start template)
    (placedHandlers hs) (List.append_nil template.toList).symm
  have htext : (spliceHandlers template hs).text.toList = Patch.after ps ++ kept := by
    rw [Splicing.text, String.toList_ofList]
    simpa only [spliceHandlers, Splicing.start, List.append_nil] using hafter
  have hreplaced : ∀ g, g ∈ ps.map (·.handler) ↔
      g ∈ replaceable template.toList (byteLength template.toList) (placedHandlers hs) := by
    intro g
    rw [hmap, List.mem_reverse]
    rfl
  have hmark : ¬ callMark <:+: Patch.before ps ++ kept := by
    rw [← hbefore]
    intro hinfix
    have hoccurs : occursIn (registryName ++ ".") template = true :=
      contains_iff.mpr (by simpa [callMark, Splicing.start] using hinfix)
    exact absurd hoccurs (by simp [htemplate])
  obtain ⟨hparts, hkept⟩ := not_mark_of_before hmark
  have hps : ∀ p ∈ ps, p.handler ∈ hs := by
    intro p hp
    have hmem := (hreplaced p.handler).mp (List.mem_map_of_mem hp)
    exact (mem_placedHandlers.mp ((replaceable_sublist _ _ _).subset hmem)).1
  rw [Handler.calls, htext]
  split
  · next hskipped =>
    refine count_of_notMem (fun p hp => ⟨hplain _ (hps p hp), hparts p hp⟩) hkept
      (hplain h hh).unclosed fun hmem => ?_
    obtain ⟨p, hp, hid⟩ := List.mem_map.mp hmem
    have hph := hinj p.handler (hps p hp) hid
    have hreplaced := (hreplaced h).mp (hph ▸ List.mem_map_of_mem hp)
    exact hdisjoint.2.2 h hreplaced h hskipped rfl
  · next hskipped =>
    have hmem := hperm.mem_iff.mpr (mem_placedHandlers.mpr ⟨hh, hsign⟩)
    have hreplaced := (hreplaced h).mpr ((List.mem_append.mp hmem).resolve_right hskipped)
    obtain ⟨p, hp, rfl⟩ := List.mem_map.mp hreplaced
    refine count_of_mem (fun p hp => ⟨hplain _ (hps p hp), hparts p hp⟩) hkept ?_ hp
    have hids' : ((ps.map (·.handler)).map (·.id)).Nodup := by
      rw [hmap, List.map_reverse, List.nodup_reverse]
      exact hnodup.sublist ((replaceable_sublist _ _ _).map _)
    rwa [List.map_map] at hids'

/-- Checking a template into which calls were put reports the handlers that were skipped, in the
order in which they are given and as called nowhere, provided that the template had no mark of a call
before, that the names of handlers differ, and that their labels cannot be mistaken. -/
theorem checkHandlers_spliceHandlers
    (htemplate : occursIn (registryName ++ ".") template = false)
    (hids : (hs.map (·.id)).Nodup) (hplain : ∀ h ∈ hs, h.PlainLabels) :
    checkHandlers (spliceHandlers template hs).text hs =
        (hs.filter fun h => !h.isSignIn && h ∈ (spliceHandlers template hs).skipped.map (·.1)).map
          (Handler.callDiagnostic · 0) ∧
      (∀ h ∈ hs, h.isSignIn = false → h ∈ (spliceHandlers template hs).skipped.map (·.1) →
        h.calls (spliceHandlers template hs).text = 0) ∧
      (checkHandlers (spliceHandlers template hs).text hs = [] ↔
        (spliceHandlers template hs).skipped = []) := by
  have hcalls := fun h hh hsign => calls_spliceHandlers htemplate hids hplain (h := h) hh hsign
  have hreport : checkHandlers (spliceHandlers template hs).text hs =
      (hs.filter fun h => !h.isSignIn && h ∈ (spliceHandlers template hs).skipped.map (·.1)).map
        (Handler.callDiagnostic · 0) := by
    rw [checkHandlers, ← List.filterMap_eq_map, List.filterMap_filter, List.filterMap_filter]
    refine List.filterMap_congr fun h hh => ?_
    cases hsign : h.isSignIn with
    | true => simp
    | false =>
      by_cases hskipped : h ∈ (spliceHandlers template hs).skipped.map (·.1)
      · simp [Handler.checkCalls, hcalls h hh hsign, hskipped]
      · simp [Handler.checkCalls, hcalls h hh hsign, hskipped]
  refine ⟨hreport, fun h hh hsign hskipped => ?_, ?_⟩
  · rw [hcalls h hh hsign, if_pos hskipped]
  · rw [hreport, List.map_eq_nil_iff, List.filter_eq_nil_iff]
    constructor
    · intro hnone
      refine List.eq_nil_iff_forall_not_mem.mpr fun x hx => ?_
      have hskipped : x.1 ∈ (spliceHandlers template hs).skipped.map (·.1) :=
        List.mem_map_of_mem hx
      have hplaced := (perm_placedHandlers template hs).subset (List.mem_append_right _ hskipped)
      obtain ⟨hh, hsign⟩ := mem_placedHandlers.mp hplaced
      exact hnone x.1 hh (by simp [hsign, hskipped])
    · intro hnil h _
      simp [hnil]

end Report

/-- Of two buttons, the second of which is not where its handler says, the second is reported. -/
theorem driftedButton_reported :
    occursIn (registryName ++ ".") "<b onClick=\"a()\"/><b onClick=\"b()\"/>" = false ∧
    ([buttonHandler "__h0" "a()" 3 16, buttonHandler "__h1" "b()" 23 36].map (·.id)).Nodup ∧
    (∀ h ∈ [buttonHandler "__h0" "a()" 3 16, buttonHandler "__h1" "b()" 23 36], h.PlainLabels) ∧
    checkHandlers (spliceHandlers "<b onClick=\"a()\"/><b onClick=\"b()\"/>"
        [buttonHandler "__h0" "a()" 3 16, buttonHandler "__h1" "b()" 23 36]).text
      [buttonHandler "__h0" "a()" 3 16, buttonHandler "__h1" "b()" 23 36] =
        [(buttonHandler "__h1" "b()" 23 36).callDiagnostic 0] := by
  have htemplate : occursIn (registryName ++ ".")
      "<b onClick=\"a()\"/><b onClick=\"b()\"/>" = false := by decide
  have hplain : ∀ h ∈ [buttonHandler "__h0" "a()" 3 16, buttonHandler "__h1" "b()" 23 36],
      h.PlainLabels := by
    intro h hh
    rcases List.mem_pair.mp hh with rfl | rfl
    all_goals exact ⟨by decide, by decide, by decide, by decide⟩
  have hreport := (checkHandlers_spliceHandlers htemplate (by decide) hplain).1
  refine ⟨htemplate, by decide, hplain, hreport.trans ?_⟩
  rw [spliceHandlers, placedHandlers_pair (by decide) (by decide) (by decide)]
  decide +kernel

end AppBundle
