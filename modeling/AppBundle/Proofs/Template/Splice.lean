import AppBundle.Proofs.Sort
import AppBundle.Proofs.Text.Bytes
import AppBundle.Proofs.Text.Search
import AppBundle.Template.Splice

/-!
# What splicing does to a template

Attributes are replaced from the last to the first, each in the text as it has become by then, while
its range is judged by the template as it was. That goes well because the part in front of the
attributes already replaced is still that of the template: a range that ends there is a range of the
text as well (`inPlace_eq`), and the text that results is the template with parts replaced that
follow each other (`exists_patches`).
-/

namespace AppBundle

open AppBundle.Text

/-! ## Which attributes are replaced -/

/-- Whether the attribute of a handler can be replaced in a template when everything from the floor
on is settled: its range is a part of the template in front of the floor and begins with the name of
the attribute. -/
def Handler.fits (h : Handler) (template : List Char) (floor : Nat) : Bool :=
  h.first ≤ h.last && h.last ≤ byteLength template && h.last ≤ floor
    && isBoundary h.first template && isBoundary h.last template
    && match slice? h.first h.last template with
      | some inside => h.attr.toList.isPrefixOf inside
      | none => false

/-- The handlers whose attributes are replaced, met one after the other; each lowers the floor to
where its attribute begins. -/
def replaceable (template : List Char) : Nat → List Handler → List Handler
  | _, [] => []
  | floor, h :: hs =>
    if h.fits template floor then h :: replaceable template h.first hs
    else replaceable template floor hs

/-- Attributes replaced one after the other in a text, each at its range in the text as it is by
then; none if that is no range of the text. -/
def spliceInPlace (template : List Char) : Nat → List Char → List Handler → Option (List Char)
  | _, text, [] => some text
  | floor, text, h :: hs =>
    if h.fits template floor then
      (replaceRange? h.first h.last h.callText.toList text).bind fun text =>
        spliceInPlace template h.first text hs
    else spliceInPlace template floor text hs

variable {template front back : List Char} {h : Handler} {floor : Nat}

/-- A range that fits cuts the part in front of the floor in three. -/
theorem fits_iff (ht : template = front ++ back) :
    h.fits template (byteLength front) = true ↔
      ∃ before inside behind, front = before ++ inside ++ behind ∧
        byteLength before = h.first ∧ byteLength before + byteLength inside = h.last ∧
        h.attr.toList <+: inside := by
  simp only [Handler.fits, Bool.and_eq_true, decide_eq_true_eq, isBoundary_iff]
  constructor
  · rintro ⟨⟨⟨⟨⟨hle, -⟩, hfloor⟩, a, b, hab, hfirst⟩, c, d, hcd, hlast⟩, hslice⟩
    -- the two cuts of the template lie one in the other
    obtain ⟨behind, hfront⟩ := exists_append_of_le (ht.symm.trans hcd) (by omega)
    obtain ⟨inside, rfl⟩ := exists_append_of_le (hcd.symm.trans hab) (by omega)
    rw [byteLength_append] at hlast
    refine ⟨a, inside, behind, hfront, hfirst, hlast, ?_⟩
    have hinside : slice? h.first h.last template = some inside := by
      rw [← hfirst, ← hlast, hcd]
      exact slice?_append a inside d
    rw [hinside] at hslice
    exact List.isPrefixOf_iff_prefix.mp hslice
  · rintro ⟨before, inside, behind, rfl, hfirst, hlast, hattr⟩
    have hcut : template = before ++ (inside ++ (behind ++ back)) := by
      rw [ht, List.append_assoc, List.append_assoc]
    have hinside : slice? h.first h.last template = some inside := by
      rw [← hfirst, ← hlast, hcut, ← List.append_assoc]
      exact slice?_append before inside (behind ++ back)
    rw [hinside]
    refine ⟨⟨⟨⟨⟨by omega, ?_⟩, ?_⟩, before, _, hcut, hfirst⟩, before ++ inside, behind ++ back, ?_,
      ?_⟩, List.isPrefixOf_iff_prefix.mpr hattr⟩
    · rw [hcut]
      simp only [byteLength_append]
      omega
    · simp only [byteLength_append]
      omega
    · rw [hcut, List.append_assoc]
    · rw [byteLength_append, hlast]

namespace Splicing

/-- A range that fits is replaced in the part that is as it was. -/
theorem place_of_fits {before inside behind : List Char} (hfirst : byteLength before = h.first)
    (hlast : byteLength before + byteLength inside = h.last) (hattr : h.attr.toList <+: inside)
    {length : Nat} (hlength : byteLength (before ++ inside ++ behind) ≤ length) :
    place length (before ++ inside ++ behind) h = .ok (before, behind) := by
  have haround : around? h.first h.last (before ++ inside ++ behind) =
      some (before, inside, behind) := by
    have hinside : h.last - h.first = byteLength inside := by omega
    rw [around?, ← hfirst, List.append_assoc, cutAt?_append]
    simp only [Option.bind_eq_bind, Option.bind_some, hfirst, hinside, cutAt?_append]
    rfl
  obtain ⟨rest, hrest⟩ := hattr
  simp only [byteLength_append] at hlength
  rw [place, if_neg (by omega), if_neg (by simp only [byteLength_append]; omega), haround]
  simp only [← hrest, after?_append, Option.isSome_some, if_true]

/-- Only ranges that fit are replaced. -/
theorem fits_of_place {length : Nat} {p : List Char × List Char}
    (hplace : place length front h = .ok p) (ht : template = front ++ back) :
    h.fits template (byteLength front) = true := by
  rw [fits_iff ht]
  unfold place at hplace
  split at hplace
  · exact absurd hplace (by simp)
  · next hrange =>
    split at hplace
    · exact absurd hplace (by simp)
    · split at hplace
      · exact absurd hplace (by simp)
      · next before inside behind haround =>
        split at hplace
        · next hattr =>
          obtain ⟨rest, hrest⟩ := Option.isSome_iff_exists.mp hattr
          simp only [around?, Option.bind_eq_bind, Option.bind_eq_some_iff, Prod.exists] at haround
          obtain ⟨a, b, hab, c, d, hcd, heq⟩ := haround
          obtain ⟨rfl, hfirst⟩ := cutAt?_eq_some_iff.mp hab
          obtain ⟨rfl, hlast⟩ := cutAt?_eq_some_iff.mp hcd
          obtain ⟨rfl, rfl, rfl⟩ : a = before ∧ c = inside ∧ d = behind := by simpa using heq
          exact ⟨a, c, d, by rw [List.append_assoc], hfirst, by omega, rest,
            (after?_eq_some_iff.mp hrest).symm⟩
        · exact absurd hplace (by simp)

/-- One more handler: if its range fits, the part in front of the floor is cut there and the call
takes the place of the attribute; otherwise the text stays. -/
theorem step_cases (r : Splicing) (ht : template = r.front ++ back) :
    (∃ before inside behind, r.front = before ++ inside ++ behind ∧
        byteLength before = h.first ∧ byteLength before + byteLength inside = h.last ∧
        h.attr.toList <+: inside ∧ h.fits template (byteLength r.front) = true ∧
        r.step (byteLength template) h =
          { r with front := before, tail := h.callText.toList ++ behind ++ r.tail }) ∨
      (h.fits template (byteLength r.front) = false ∧
        (r.step (byteLength template) h).front = r.front ∧
        (r.step (byteLength template) h).tail = r.tail) := by
  cases hfits : h.fits template (byteLength r.front) with
  | true =>
    obtain ⟨before, inside, behind, hfront, hfirst, hlast, hattr⟩ := (fits_iff ht).mp hfits
    refine .inl ⟨before, inside, behind, hfront, hfirst, hlast, hattr, rfl, ?_⟩
    have hlength : byteLength (before ++ inside ++ behind) ≤ byteLength template := by
      rw [ht, hfront, byteLength_append _ back]
      omega
    rw [step, hfront, place_of_fits hfirst hlast hattr hlength]
  | false =>
    refine .inr ⟨rfl, ?_⟩
    unfold step
    split
    · next before behind hplace =>
      exact absurd (fits_of_place hplace ht) (by simp [hfits])
    · exact ⟨rfl, rfl⟩

/-- A handler whose range does not fit is skipped. -/
theorem skipped_step {r : Splicing} (ht : template = r.front ++ back)
    (hfits : h.fits template (byteLength r.front) = false) :
    (r.step (byteLength template) h).skipped.map (·.1) = h :: r.skipped.map (·.1) := by
  unfold step
  split
  · next before behind hplace =>
    exact absurd (fits_of_place hplace ht) (by simp [hfits])
  · rfl

end Splicing

/-! ## In place -/

/-- Attributes are replaced where they stand in the text as it is by then. -/
theorem spliceInPlace_eq (r : Splicing) (hs : List Handler) (ht : template = r.front ++ back) :
    spliceInPlace template (byteLength r.front) (r.front ++ r.tail) hs =
      some ((hs.foldl (Splicing.step (byteLength template)) r).front
        ++ (hs.foldl (Splicing.step (byteLength template)) r).tail) := by
  induction hs generalizing r back with
  | nil => rfl
  | cons h hs ih =>
    rw [spliceInPlace, List.foldl_cons]
    rcases r.step_cases ht (h := h) with
      ⟨before, inside, behind, hfront, hfirst, hlast, -, hfits, hstep⟩ | ⟨hfits, hfront, htail⟩
    · -- the range is one of the text, because the part in front of the floor is the template's
      have hreplace : replaceRange? h.first h.last h.callText.toList (r.front ++ r.tail) =
          some (before ++ (h.callText.toList ++ behind ++ r.tail)) := by
        rw [← hfirst, ← hlast, hfront, List.append_assoc _ behind, replaceRange?_append]
        simp only [List.append_assoc]
      have ht' : template = before ++ (inside ++ behind ++ back) := by
        rw [ht, hfront]
        simp only [List.append_assoc]
      rw [if_pos hfits, hreplace, Option.bind_some, hstep, ← hfirst]
      exact ih ⟨before, h.callText.toList ++ behind ++ r.tail, r.skipped⟩ ht'
    · have ht' : template = (r.step (byteLength template) h).front ++ back := by
        rw [hfront, ← ht]
      rw [hfits, if_neg (by simp), ← hfront, ← htail]
      exact ih _ ht'

/-! ## The parts that are replaced -/

/-- A part of a template that is replaced, with the part in front of it that is kept. -/
structure Patch where
  /-- What is kept in front. -/
  kept : List Char
  /-- The handler that is called instead. -/
  handler : Handler
  /-- What is replaced. -/
  old : List Char

namespace Patch

/-- The text of patches in the template. -/
def before (ps : List Patch) : List Char :=
  ps.flatMap fun p => p.kept ++ p.old

/-- The text of patches in the result. -/
def after (ps : List Patch) : List Char :=
  ps.flatMap fun p => p.kept ++ p.handler.callText.toList

/-- Whether patches follow each other from an offset on: what each replaces is the range of its
handler, and begins with the name of the attribute. -/
def From : Nat → List Patch → Prop
  | _, [] => True
  | offset, p :: ps =>
    p.handler.first = offset + byteLength p.kept ∧
      p.handler.last = p.handler.first + byteLength p.old ∧
      p.handler.attr.toList <+: p.old ∧ From p.handler.last ps

theorem before_append (ps qs : List Patch) : before (ps ++ qs) = before ps ++ before qs :=
  List.flatMap_append

theorem after_append (ps qs : List Patch) : after (ps ++ qs) = after ps ++ after qs :=
  List.flatMap_append

/-- Patches go on where those in front of them end. -/
theorem from_append {offset : Nat} {ps qs : List Patch} (hp : From offset ps)
    (hq : From (offset + byteLength (before ps)) qs) : From offset (ps ++ qs) := by
  induction ps generalizing offset with
  | nil => simpa [before] using hq
  | cons p ps ih =>
    obtain ⟨hfirst, hlast, hattr, hrest⟩ := hp
    refine ⟨hfirst, hlast, hattr, ih hrest ?_⟩
    have hoffset : offset + byteLength (before (p :: ps)) =
        p.handler.last + byteLength (before ps) := by
      simp only [before, List.flatMap_cons, byteLength_append]
      omega
    rwa [← hoffset]

/-- Patches that follow each other replace ranges that do. -/
theorem pairwise_of_from {offset : Nat} {ps : List Patch} (hp : From offset ps) :
    (ps.map (·.handler)).Pairwise (fun g h => g.last ≤ h.first) ∧
      ∀ p ∈ ps, offset ≤ p.handler.first := by
  induction ps generalizing offset with
  | nil => exact ⟨.nil, by simp⟩
  | cons p ps ih =>
    obtain ⟨hfirst, hlast, -, hrest⟩ := hp
    obtain ⟨hpairs, hle⟩ := ih hrest
    refine ⟨List.pairwise_cons.mpr ⟨fun h hh => ?_, hpairs⟩, fun q hq => ?_⟩
    · obtain ⟨q, hq, rfl⟩ := List.mem_map.mp hh
      exact hle q hq
    · rcases List.mem_cons.mp hq with rfl | hq
      · omega
      · have := hle q hq
        omega

end Patch

/-- The text that results is made of patches, one for each handler that is replaced. -/
theorem exists_patches (r : Splicing) (hs : List Handler) (ht : template = r.front ++ back) :
    ∃ ps kept, r.front = Patch.before ps ++ kept ∧
      (hs.foldl (Splicing.step (byteLength template)) r).front
        ++ (hs.foldl (Splicing.step (byteLength template)) r).tail =
          Patch.after ps ++ kept ++ r.tail ∧
      Patch.From 0 ps ∧
      ps.map (·.handler) = (replaceable template (byteLength r.front) hs).reverse := by
  induction hs generalizing r back with
  | nil => exact ⟨[], r.front, rfl, rfl, trivial, rfl⟩
  | cons h hs ih =>
    rw [List.foldl_cons, replaceable]
    rcases r.step_cases ht (h := h) with
      ⟨before, inside, behind, hfront, hfirst, hlast, hattr, hfits, hstep⟩ |
      ⟨hfits, hfront, htail⟩
    · -- the handler is replaced, by a patch behind those of the handlers still to come
      have ht' : template = (r.step (byteLength template) h).front ++
          (inside ++ behind ++ back) := by
        rw [hstep, ht, hfront]
        simp only [List.append_assoc]
      obtain ⟨ps, kept, hbefore, hafter, hfrom, hmap⟩ := ih _ ht'
      simp only [hstep] at hbefore hafter hmap
      have hlength := congrArg byteLength hbefore
      simp only [byteLength_append] at hlength
      refine ⟨ps ++ [⟨kept, h, inside⟩], behind, ?_, ?_, Patch.from_append hfrom ?_, ?_⟩
      · rw [hfront, Patch.before_append, hbefore]
        simp [Patch.before]
      · rw [hstep, hafter, Patch.after_append]
        simp [Patch.after]
      · exact ⟨by simp only; omega, by simp only; omega, hattr, trivial⟩
      · rw [if_pos hfits, List.map_append, hmap, List.reverse_cons, hfirst]
        rfl
    · -- the handler is skipped
      have ht' : template = (r.step (byteLength template) h).front ++ back := by
        rw [hfront, ← ht]
      obtain ⟨ps, kept, hbefore, hafter, hfrom, hmap⟩ := ih _ ht'
      rw [hfront] at hbefore hmap
      rw [htail] at hafter
      refine ⟨ps, kept, hbefore, hafter, hfrom, ?_⟩
      rw [hfits, if_neg (by simp), hmap]

/-! ## Which attributes are skipped -/

theorem replaceable_sublist (template : List Char) (floor : Nat) (hs : List Handler) :
    (replaceable template floor hs).Sublist hs := by
  induction hs generalizing floor with
  | nil => exact .slnil
  | cons h hs ih =>
    rw [replaceable]
    split
    · exact (ih h.first).cons_cons h
    · exact (ih floor).cons h

/-- Every handler that is met has its attribute replaced or is skipped. -/
theorem skipped_perm (r : Splicing) (hs : List Handler) (ht : template = r.front ++ back) :
    (replaceable template (byteLength r.front) hs ++
        (hs.foldl (Splicing.step (byteLength template)) r).skipped.map (·.1)).Perm
      (hs ++ r.skipped.map (·.1)) := by
  induction hs generalizing r back with
  | nil => exact .refl _
  | cons h hs ih =>
    rw [List.foldl_cons, replaceable]
    rcases r.step_cases ht (h := h) with
      ⟨before, inside, behind, hfront, hfirst, -, -, hfits, hstep⟩ | ⟨hfits, hfront, -⟩
    · have ht' : template = (r.step (byteLength template) h).front ++
          (inside ++ behind ++ back) := by
        rw [hstep, ht, hfront]
        simp only [List.append_assoc]
      have hrest := ih _ ht'
      simp only [hstep, hfirst] at hrest ⊢
      rw [if_pos hfits]
      exact hrest.cons h
    · have ht' : template = (r.step (byteLength template) h).front ++ back := by
        rw [hfront, ← ht]
      have hrest := ih _ ht'
      rw [Splicing.skipped_step ht hfits, hfront] at hrest
      rw [hfits, if_neg (by simp)]
      exact hrest.trans List.perm_middle

/-! ## The order in which handlers are met -/

/-- Handlers are met from the last to the first, those that begin at one offset in the order in
which they are given. -/
theorem placedHandlers_order (hs : List Handler) :
    (placedHandlers hs).Pairwise (fun g h => h.first ≤ g.first) ∧
      ∀ n, (placedHandlers hs).filter (·.first = n) =
        (hs.filter (!·.isSignIn)).filter (·.first = n) :=
  ⟨pairwise_mergeSort Handler.first _, fun n => filter_mergeSort Handler.first _ n⟩

/-- Two handlers in the order of their attributes are met the other way round. -/
theorem placedHandlers_pair {g h : Handler} (hg : g.isSignIn = false) (hh : h.isSignIn = false)
    (hlt : g.first < h.first) : placedHandlers [g, h] = [h, g] := by
  have hnot : ¬ h.first ≤ g.first := by omega
  rw [placedHandlers]
  simp [hg, hh, hnot, List.mergeSort, List.MergeSort.Internal.splitInTwo]

/-- Splicing puts calls in the place of attributes and keeps everything else. Handlers are met from
the last to the first, those at one offset in their order, and those of sign-in never; each range is
replaced in the text as it is by then, which never fails; and the result is the template with
patches in it that follow each other, for the handlers whose ranges fit in front of the last one
replaced. -/
theorem spliceHandlers_patches (template : String) (hs : List Handler) :
    ((placedHandlers hs).Pairwise (fun g h => h.first ≤ g.first) ∧
      ∀ n, (placedHandlers hs).filter (·.first = n) =
        (hs.filter (!·.isSignIn)).filter (·.first = n)) ∧
    spliceInPlace template.toList (byteLength template.toList) template.toList
        (placedHandlers hs) = some (spliceHandlers template hs).text.toList ∧
    (∃ ps kept, template.toList = Patch.before ps ++ kept ∧
      (spliceHandlers template hs).text.toList = Patch.after ps ++ kept ∧
      Patch.From 0 ps ∧ (ps.map (·.handler)).Pairwise (fun g h => g.last ≤ h.first) ∧
      ps.map (·.handler) = (replaceable template.toList (byteLength template.toList)
        (placedHandlers hs)).reverse) ∧
    spliceHandlers template (hs.filter (!·.isSignIn)) = spliceHandlers template hs := by
  have htext : (spliceHandlers template hs).text.toList =
      (spliceHandlers template hs).front ++ (spliceHandlers template hs).tail :=
    String.toList_ofList
  have hplace := spliceInPlace_eq (.start template) (placedHandlers hs)
    (List.append_nil template.toList).symm
  obtain ⟨ps, kept, hbefore, hafter, hfrom, hmap⟩ := exists_patches (.start template)
    (placedHandlers hs) (List.append_nil template.toList).symm
  refine ⟨placedHandlers_order hs, ?_, ⟨ps, kept, hbefore, ?_, hfrom,
    (Patch.pairwise_of_from hfrom).1, hmap⟩, ?_⟩
  · rw [htext]
    simpa only [spliceHandlers, Splicing.start, List.append_nil] using hplace
  · rw [htext]
    simpa only [spliceHandlers, Splicing.start, List.append_nil] using hafter
  · simp only [spliceHandlers, placedHandlers, List.filter_filter, Bool.and_self]

end AppBundle
