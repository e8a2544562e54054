import AppBundle.Import.Resolve
import AppBundle.Proofs.Import.Scan
import AppBundle.Proofs.Reference

/-!
# Resolving imports keeps the imports

Code in which specifiers are exchanged has the chunks of the code with the specifiers exchanged
(`chunks_exchange`), if what comes in is again what a string may hold. A specifier that is resolved
is the text of a URL, which may hold a quote that stands unencoded in the path of the app file. Where
none does, scanning the resolved code finds each import of the code on its line
(`scan_resolveAll`). Where one does, the specifier ends at the quote.
-/

namespace AppBundle

namespace Import

open AppBundle.Text

variable {cs ds : List Char} {before : Option Char} {r : List Char → List Char}

/-! ## Exchanging specifiers -/

/-- A chunk with its specifier exchanged. -/
def Chunk.exchange (r : List Char → List Char) : Chunk → Chunk
  | .plain c => .plain c
  | .specifier cs => .specifier (r cs)

@[simp] theorem Chunk.exchange_plain (r : List Char → List Char) (c : Char) :
    (Chunk.plain c).exchange r = .plain c := rfl

@[simp] theorem Chunk.exchange_specifier (r : List Char → List Char) (s : List Char) :
    (Chunk.specifier s).exchange r = .specifier (r s) := rfl

theorem map_exchange_plain (r : List Char → List Char) (cs : List Char) :
    (cs.map Chunk.plain).map (·.exchange r) = cs.map .plain := by
  rw [List.map_map]
  rfl

/-- The text of chunks with their specifiers exchanged. -/
def exchanged (r : List Char → List Char) (cs : List Chunk) : List Char :=
  cs.flatMap fun c => (c.exchange r).text

theorem exchanged_plain_append (r : List Char → List Char) (front : List Char) (cs : List Chunk) :
    exchanged r (front.map .plain ++ cs) = front ++ exchanged r cs := by
  induction front with
  | nil => rfl
  | cons c front ih =>
    simp only [List.map_cons, List.cons_append, exchanged, List.flatMap_cons, Chunk.exchange,
      Chunk.text, List.nil_append] at ih ⊢
    rw [ih]

theorem exchanged_specifier_cons (r : List Char → List Char) (s : List Char) (cs : List Chunk) :
    exchanged r (.specifier s :: cs) = r s ++ exchanged r cs := by
  simp only [exchanged, List.flatMap_cons, Chunk.exchange, Chunk.text]

/-- A specifier that stays, or comes and goes without closing a call. -/
def Keeps (r : List Char → List Char) (s : List Char) : Prop :=
  r s = s ∨ Exchangeable s ∧ Exchangeable (r s)

theorem Keeps.content {s : List Char} (h : Keeps r s) (hs : Content s) : Content (r s) := by
  rcases h with heq | ⟨-, hr⟩
  · rwa [heq]
  · exact hr.toContent

/-- Every specifier among the chunks may be exchanged. -/
def AllKeep (r : List Char → List Char) (cs : List Chunk) : Prop :=
  ∀ s, .specifier s ∈ cs → Keeps r s

/-- An import and what is behind it are the text. -/
theorem eq_append_of_importAt? {f : Found} (h : importAt? before cs = some f) :
    cs = f.front ++ f.specifier ++ f.back ++ f.rest := by
  obtain ⟨front, q, e, back, rfl, hfront, hback, -⟩ := text_of_importAt? h
  simp [hfront, hback]

theorem front_ne_nil_of_importAt? {f : Found} (h : importAt? before cs = some f) : f.front ≠ [] := by
  obtain ⟨front, q, e, back, -, hfront, -⟩ := text_of_importAt? h
  simp [hfront]

/-- The chunks of code that begins with an import. -/
theorem chunksFrom_of_importAt? {f : Found} (h : importAt? before cs = some f) (fuel : Nat) :
    chunksFrom (fuel + 1) before cs =
      f.front.map .plain ++ .specifier f.specifier ::
        (f.back.map .plain ++ chunksFrom fuel f.back.getLast? f.rest) := by
  cases cs with
  | nil =>
    obtain ⟨front, q, e, back, htext, -⟩ := text_of_importAt? h
    exact absurd htext (by simp)
  | cons c rest =>
    rw [chunksFrom, h]
    simp only [List.append_assoc, List.cons_append]

theorem alike_exchanged {fuel : Nat} (hr : AllKeep r (chunksFrom fuel before cs)) :
    Alike cs (exchanged r (chunksFrom fuel before cs)) := by
  induction fuel generalizing before cs with
  | zero =>
    have htext := exchanged_plain_append r cs []
    rw [List.append_nil] at htext
    rw [chunksFrom, htext]
    simpa [exchanged] using Alike.refl cs
  | succ fuel ih =>
    cases cs with
    | nil => exact .nil
    | cons c rest =>
      cases hat : importAt? before (c :: rest) with
      | none =>
        simp only [chunksFrom, hat] at hr ⊢
        exact .same c (ih fun s hs => hr s (List.mem_cons_of_mem _ hs))
      | some f =>
        rw [chunksFrom_of_importAt? hat] at hr ⊢
        rw [exchanged_plain_append, exchanged_specifier_cons, exchanged_plain_append]
        have hkeep : Keeps r f.specifier := hr _ (by simp)
        have hrest : Alike f.rest (exchanged r (chunksFrom fuel f.back.getLast? f.rest)) :=
          ih fun s hs => hr s (by simp [hs])
        obtain ⟨front, q, e, back, htext, hfront, hback, hq, he, -⟩ := text_of_importAt? hat
        rw [hback] at hrest
        rw [htext, hfront, hback, List.append_assoc, List.cons_append, List.nil_append,
          List.cons_append]
        rcases hkeep with heq | ⟨hs, ht⟩
        · rw [heq]
          exact .append front (.same q (.append f.specifier (.same e (.append back hrest))))
        · exact .append front (.string hq he hs ht (.append back hrest))

/-- Code with its specifiers exchanged has the same chunks but for the specifiers. -/
theorem chunksFrom_exchanged {fuel n : Nat} (hr : AllKeep r (chunksFrom fuel before cs))
    (hfuel : cs.length ≤ fuel) (hn : (exchanged r (chunksFrom fuel before cs)).length ≤ n) :
    chunksFrom n before (exchanged r (chunksFrom fuel before cs)) =
      (chunksFrom fuel before cs).map (·.exchange r) := by
  have halike := alike_exchanged hr
  induction fuel generalizing before cs n with
  | zero =>
    rw [List.length_eq_zero_iff.mp (Nat.le_zero.mp hfuel)]
    cases n <;> rfl
  | succ fuel ih =>
    cases cs with
    | nil => cases n <;> rfl
    | cons c rest =>
      cases hat : importAt? before (c :: rest) with
      | none =>
        simp only [chunksFrom, hat] at hr hn halike ⊢
        have hrest : AllKeep r (chunksFrom fuel (some c) rest) :=
          fun s hs => hr s (List.mem_cons_of_mem _ hs)
        have hcons : exchanged r (.plain c :: chunksFrom fuel (some c) rest) =
            c :: exchanged r (chunksFrom fuel (some c) rest) := rfl
        rw [hcons] at hn halike ⊢
        obtain ⟨n, rfl⟩ := Nat.exists_eq_succ_of_ne_zero (n := n) (by rintro rfl; simp at hn)
        simp only [chunksFrom, halike.importAt?_eq_none hat, List.map_cons]
        rw [ih hrest (by simpa using hfuel) (by simpa using hn) (alike_exchanged hrest)]
        rfl
      | some f =>
        -- an import takes one character at least, which the fuel bears
        have hlength := congrArg List.length (eq_append_of_importAt? hat)
        have hfront := List.length_pos_iff.mpr (front_ne_nil_of_importAt? hat)
        rw [chunksFrom_of_importAt? hat] at hr hn halike ⊢
        have hrest : AllKeep r (chunksFrom fuel f.back.getLast? f.rest) :=
          fun s hs => hr s (by simp [hs])
        have hcontent : Content (r f.specifier) := by
          obtain ⟨-, -, -, -, -, -, -, -, -, hs⟩ := text_of_importAt? hat
          exact (hr f.specifier (by simp)).content hs
        rw [exchanged_plain_append, exchanged_specifier_cons, exchanged_plain_append,
          ← List.append_assoc, ← List.append_assoc] at hn halike ⊢
        simp only [List.length_append, List.length_cons] at hlength hfuel hn
        obtain ⟨n, rfl⟩ := Nat.exists_eq_succ_of_ne_zero (n := n) (by omega)
        rw [chunksFrom_of_importAt? (importAt?_exchange hat hcontent halike)]
        simp only [List.map_append, List.map_cons, map_exchange_plain]
        rw [ih hrest (by omega) (by omega) (alike_exchanged hrest)]
        rfl

theorem chunks_exchanged {code : List Char} (hr : AllKeep r (chunks code)) :
    chunks (exchanged r (chunks code)) = (chunks code).map (·.exchange r) :=
  chunksFrom_exchanged hr le_rfl le_rfl

/-! ## What scanning finds -/

/-- A specifier among the chunks of code is what a string may hold. -/
theorem content_of_mem {fuel : Nat} {s : List Char}
    (h : .specifier s ∈ chunksFrom fuel before cs) : Content s := by
  induction fuel generalizing before cs with
  | zero => simp [chunksFrom] at h
  | succ fuel ih =>
    cases cs with
    | nil => simp [chunksFrom] at h
    | cons c rest =>
      cases hat : importAt? before (c :: rest) with
      | none =>
        rw [chunksFrom, hat] at h
        exact ih (by simpa using h)
      | some f =>
        rw [chunksFrom_of_importAt? hat] at h
        obtain ⟨-, -, -, -, -, -, -, -, -, hs⟩ := text_of_importAt? hat
        rcases List.mem_append.mp h with h | h
        · simp at h
        · rcases List.mem_cons.mp h with h | h
          · rwa [Chunk.specifier.inj h]
          · exact ih (by simpa using h)

/-- Every specifier among the chunks is found. -/
theorem exists_mem_locate {cs : List Chunk} {s : List Char} (h : .specifier s ∈ cs)
    (offset line : Nat) : ∃ i ∈ locate offset line cs, i.specifier = String.ofList s := by
  induction cs generalizing offset line with
  | nil => exact absurd h List.not_mem_nil
  | cons c cs ih =>
    rcases List.mem_cons.mp h with rfl | hmem
    · exact ⟨_, List.mem_cons_self, rfl⟩
    · cases c with
      | plain c => exact ih hmem _ _
      | specifier t =>
        obtain ⟨i, hi, heq⟩ := ih hmem (offset + byteLength t) line
        exact ⟨i, List.mem_cons_of_mem _ hi, heq⟩

/-- Where specifiers are exchanged, the same imports are found on the same lines. -/
theorem map_locate_exchange (r : List Char → List Char) (cs : List Chunk)
    (offset offset' line : Nat) :
    (locate offset line (cs.map (·.exchange r))).map (fun i => (i.specifier, i.line)) =
      (locate offset' line cs).map fun i =>
        (String.ofList (r i.specifier.toList), i.line) := by
  induction cs generalizing offset offset' line with
  | nil => rfl
  | cons c cs ih =>
    cases c with
    | plain c => exact ih _ _ _
    | specifier s =>
      simp only [List.map_cons, Chunk.exchange_specifier, locate, String.toList_ofList]
      rw [ih]

/-! ## Resolving specifiers -/

/-- A specifier as it stands in resolved code. -/
def resolve (sourceId specifier : String) : String :=
  if isRelative specifier then absoluteReference sourceId specifier else specifier

/-- The characters of a specifier as they stand in resolved code. -/
def resolveText (sourceId : String) (cs : List Char) : List Char :=
  (resolve sourceId (String.ofList cs)).toList

theorem toList_resolveAll (sourceId code : String) :
    (resolveAll sourceId code).toList =
      exchanged (resolveText sourceId) (chunks code.toList) := by
  rw [resolveAll, String.toList_ofList, exchanged]
  congr 1
  funext c
  cases c with
  | plain c => rfl
  | specifier cs =>
    rw [Chunk.exchange_specifier, Chunk.text, Chunk.resolved, resolveText, resolve]
    split
    · rfl
    · exact String.toList_ofList.symm

/-- A relative specifier begins with a point or a slash. -/
theorem head_of_isRelative {specifier : String} (h : isRelative specifier = true) :
    ∃ c rest, specifier.toList = c :: rest ∧ (c = '.' ∨ c = '/') := by
  simp only [isRelative, beginsWith, Bool.or_eq_true, isSome_after?_iff] at h
  rcases h with (⟨rest, h⟩ | ⟨rest, h⟩) | ⟨rest, h⟩
  · exact ⟨'.', _, h.symm, .inl rfl⟩
  · exact ⟨'.', _, h.symm, .inl rfl⟩
  · exact ⟨'/', _, h.symm, .inr rfl⟩

theorem isBlank_of_isAlpha {c : Char} (h : c.isAlpha = true) : isBlank c = false ∧ c ≠ ')' := by
  simp only [Url.isAlpha_iff, Url.isUpper_iff, Url.isLower_iff, UInt32.le_iff_toNat_le] at h
  have hrange : 65 ≤ c.toNat ∧ c.toNat ≤ 122 := by
    rcases h with h | h <;> exact ⟨le_trans (by decide) h.1, le_trans h.2 (by decide)⟩
  constructor
  · rw [isBlank]
    simp only [Bool.or_eq_false_iff, Bool.and_eq_false_iff, decide_eq_false_iff_not,
      beq_eq_false_iff_ne]
    omega
  · rintro rfl
    exact absurd hrange (by decide)

/-- A relative specifier may be exchanged for what it is resolved to. -/
theorem keeps_resolveText {sourceId : String} (hjoin : Joinable sourceId) {s : List Char}
    (hs : Content s)
    (hinside : isRelative (String.ofList s) = true →
      ∀ c ∈ (absoluteReference sourceId (String.ofList s)).toList, endsSpecifier c = false) :
    Keeps (resolveText sourceId) s := by
  cases hrelative : isRelative (String.ofList s) with
  | false =>
    left
    rw [resolveText, resolve, if_neg (by simp [hrelative]), String.toList_ofList]
  | true =>
    obtain ⟨c, rest, htext, hc⟩ := head_of_isRelative hrelative
    have hresolve : resolveText sourceId s =
        (absoluteReference sourceId (String.ofList s)).toList := by
      rw [resolveText, resolve, if_pos hrelative]
    -- what begins with a letter may come in
    have hletter : (∃ d tail, (absoluteReference sourceId (String.ofList s)).toList = d :: tail ∧
        d.isAlpha = true) → Keeps (resolveText sourceId) s := by
      rintro ⟨d, tail, hd, halpha⟩
      refine .inr ⟨⟨hs, ?_⟩, ⟨⟨?_, ?_⟩, ?_⟩⟩
      · intro e he
        rw [String.toList_ofList] at htext
        rw [htext] at he
        rw [← Option.some.inj he]
        rcases hc with rfl | rfl <;> decide
      · rw [hresolve, hd]
        exact List.cons_ne_nil _ _
      · rw [hresolve]
        exact hinside hrelative
      · intro e he
        rw [hresolve, hd] at he
        rw [← Option.some.inj he]
        exact isBlank_of_isAlpha halpha
    rcases hc with rfl | rfl
    · exact hletter (hjoin.absoluteReference htext (by decide) (by decide) (by decide) (by decide))
    · rcases absoluteReference_of_slash sourceId htext with heq | h
      · left
        rw [hresolve, heq, String.toList_ofList]
      · exact hletter h

/-- Where no resolved specifier holds a quote, resolving keeps the imports: the code around the
specifiers stays, and every import is found again on its line, with its specifier resolved. -/
theorem scan_resolveAll {sourceId code : String} (hjoin : Joinable sourceId)
    (hinside : ∀ i ∈ scan code, isRelative i.specifier = true →
      ∀ c ∈ (absoluteReference sourceId i.specifier).toList, endsSpecifier c = false) :
    chunks (resolveAll sourceId code).toList =
        (chunks code.toList).map (·.exchange (resolveText sourceId)) ∧
      (scan (resolveAll sourceId code)).map (fun i => (i.specifier, i.line)) =
        (scan code).map fun i => (resolve sourceId i.specifier, i.line) := by
  have hkeep : AllKeep (resolveText sourceId) (chunks code.toList) := by
    intro s hs
    obtain ⟨i, hi, heq⟩ := exists_mem_locate hs 0 0
    refine keeps_resolveText hjoin (content_of_mem hs) ?_
    rw [← heq]
    exact hinside i hi
  have hchunks := chunks_exchanged hkeep
  rw [← toList_resolveAll] at hchunks
  refine ⟨hchunks, ?_⟩
  rw [scan, scan, hchunks, map_locate_exchange (resolveText sourceId) _ 0 0 0]
  simp only [resolveText, String.ofList_toList]

/-- A script that imports a module beside the app file and one from the folder above. -/
def pairedImports : String := "import a from './a.ts';\nconst b = await import(\"../b.ts\");\n"

theorem pairedImports_resolved :
    (∀ i ∈ scan pairedImports, isRelative i.specifier = true →
      ∀ c ∈ (absoluteReference "/x/y.melker" i.specifier).toList, endsSpecifier c = false) ∧
    (scan (resolveAll "/x/y.melker" pairedImports)).map (fun i => (i.specifier, i.line)) =
      (scan pairedImports).map fun i => (resolve "/x/y.melker" i.specifier, i.line) := by
  have hinside : ∀ i ∈ scan pairedImports, isRelative i.specifier = true →
      ∀ c ∈ (absoluteReference "/x/y.melker" i.specifier).toList, endsSpecifier c = false := by
    have hall : (scan pairedImports).all (fun i => !isRelative i.specifier ||
        !(absoluteReference "/x/y.melker" i.specifier).toList.any endsSpecifier) = true := by
      decide +kernel
    simpa [or_iff_not_imp_left] using hall
  have hpath : carriesScheme "/x/y.melker" = false := by decide +kernel
  exact ⟨hinside, (scan_resolveAll (joinable_of_path hpath) hinside).2⟩

/-- A quote in the path of the app file ends the specifier that is resolved against it. -/
theorem quotedFolder_cuts_specifier :
    Joinable "/it\x27s/y.melker" ∧
    absoluteReference "/it\x27s/y.melker" "./a.ts" = "file:///it\x27s/a.ts" ∧
    (scan "import \x27./a.ts\x27;\n").map (fun i => (i.specifier, i.line)) = [("./a.ts", 0)] ∧
    resolveAll "/it\x27s/y.melker" "import \x27./a.ts\x27;\n" =
      "import \x27file:///it\x27s/a.ts\x27;\n" ∧
    (scan (resolveAll "/it\x27s/y.melker" "import \x27./a.ts\x27;\n")).map
      (fun i => (i.specifier, i.line)) = [("file:///it", 0)] := by
  have hpath : carriesScheme "/it\x27s/y.melker" = false := by decide +kernel
  refine ⟨joinable_of_path hpath, by decide +kernel, by decide +kernel, by decide +kernel, ?_⟩
  decide +kernel

end Import

end AppBundle
