import AppBundle.Proofs.Cache.Calls
import AppBundle.Proofs.Disk.Frame
import AppBundle.Proofs.Disk.Listing

/-!
# Maintenance of the cache

Counting the bundles, taking all of them away and taking the old ones away go over the same files:
all that have the ending of a bundle in the folder of the cache, whatever is in them
(`Cache.maintained`). They leave everything else as it is.
-/

namespace AppBundle

open Disk

/-! ## Points in time -/

/-- When a bundle with these bytes was made, if that can be read and is within the calendar. -/
def Cache.stampOf (bytes : List UInt8) : Option Timestamp :=
  (CachedBundle.timestampOf? bytes).bind Timestamp.ofMillis?

/-- The points in time at which these files were made, where they can be told. -/
def Cache.stamps (files : List (String × List UInt8)) : List Int :=
  (files.filterMap fun f => stampOf f.2).map (·.millis)

/-- Whether a bundle with these bytes was made before a point in time, or nobody knows when. -/
def Cache.isOld (limit : Int) (bytes : List UInt8) : Bool :=
  match CachedBundle.timestampOf? bytes with
  | some t => t < limit
  | none => true

namespace Cache

variable (c : Cache) {d d' : Disk} {name : String} {bytes : List UInt8}
  {files : List (String × List UInt8)}

/-! ## What stands in the folder -/

/-- The folder of the cache as maintenance finds it: its path leads to it, no folder in it is named
like a bundle, and the paths of the bundles are not too long. -/
structure Tidy (d : Disk) : Prop where
  listed : d.Listed
  reached : d.place c.folder = .ok c.place
  folder : d.get? c.place = some .folder
  plain : ∀ name, isBundleName name = true → d.get? (c.place ++ [name]) ≠ some .folder
  short : ∀ name bytes, isBundleName name = true →
    d.get? (c.place ++ [name]) = some (.file bytes) →
    (c.file name).text.utf8ByteSize < Path.limit

/-- A bundle stands in the folder. -/
def Stands (d : Disk) (name : String) (bytes : List UInt8) : Prop :=
  isBundleName name = true ∧ d.get? (c.place ++ [name]) = some (.file bytes)

/-- The bundles in the folder, each once. -/
structure Shelved (d : Disk) (files : List (String × List UInt8)) : Prop where
  nodup : (files.map (·.1)).Nodup
  mem : ∀ name bytes, (name, bytes) ∈ files ↔ c.Stands d name bytes

variable {c}

/-- The path of a bundle leads to it. -/
theorem Tidy.place_file (h : c.Tidy d) (hold : c.Stands d name bytes) :
    d.place (c.file name) = .ok ((c.file name).target []) ∧
      (c.file name).target [] = c.place ++ [name] := by
  obtain ⟨hname, hshort⟩ := fits_of_get? h.listed hold.2
  have hreaches : d.Reaches c.folder := reaches_of_place h.reached h.folder
  have htarget : (c.file name).target [] = c.place ++ [name] := Path.target_child [] c.folder hname
  refine ⟨?_, htarget⟩
  rw [htarget, file, hreaches.place_child hname hshort]
  exact if_neg (Nat.not_le.mpr (h.short name bytes hold.1 hold.2))

/-- The folder stays as it is to be when a bundle is taken out of it. -/
theorem Tidy.drop (h : c.Tidy d) {p : Place} (hp : d.get? p ≠ some .folder) : c.Tidy (d.drop p) where
  listed := h.listed.drop p
  reached := place_drop h.reached hp
  folder := folder_drop hp h.folder
  plain name hname hget := h.plain name hname (folder_of_drop hget)
  short name bytes hname hget := by
    rw [get?_drop d (by simp)] at hget
    split at hget
    · exact absurd hget (by simp)
    · exact h.short name bytes hname hget

/-- The names with the ending of a bundle are those of files. -/
theorem Tidy.mem_bundleNames (h : c.Tidy d) :
    name ∈ (d.names c.place).mergeSort.filter isBundleName ↔
      isBundleName name = true ∧ ∃ bytes, d.get? (c.place ++ [name]) = some (.file bytes) := by
  rw [List.mem_filter, List.mem_mergeSort, mem_names h.listed, and_comm]
  refine and_congr_right fun hname => ⟨fun ⟨i, hi⟩ => ?_, fun ⟨bytes, hb⟩ => ⟨_, hb⟩⟩
  cases i with
  | file bytes => exact ⟨bytes, hi⟩
  | folder => exact absurd hi (h.plain name hname)

/-- Files with the bytes that stand under their names are bundles in the folder. -/
theorem shelved_of_names {names : List String} (hnodup : names.Nodup)
    (hmem : ∀ name, name ∈ names ↔
      isBundleName name = true ∧ ∃ bytes, d.get? (c.place ++ [name]) = some (.file bytes)) :
    c.Shelved d (names.map fun name => (name, (d.fileAt (c.place ++ [name])).getD [])) where
  nodup := by
    rw [List.map_map]
    exact (List.map_id names).symm ▸ hnodup
  mem name bytes := by
    constructor
    · intro hfile
      obtain ⟨name', hname, heq⟩ := List.mem_map.mp hfile
      obtain ⟨rfl, rfl⟩ := Prod.mk.inj heq
      obtain ⟨hbundle, bytes, hget⟩ := (hmem _).mp hname
      exact ⟨hbundle, by rw [fileAt_eq_some.mpr hget]; exact hget⟩
    · intro hold
      refine List.mem_map.mpr ⟨name, (hmem name).mpr ⟨hold.1, bytes, hold.2⟩, ?_⟩
      rw [fileAt_eq_some.mpr hold.2]
      rfl

/-- The bundles are found in the order of their names. -/
theorem Tidy.run_bundleFiles (h : c.Tidy d) :
    ∃ files, c.Shelved d files ∧
      d.run c.bundleFiles = (.ok (files.map fun f => c.file f.1), d) := by
  have hnodup : ((d.names c.place).mergeSort.filter isBundleName).Nodup :=
    ((List.mergeSort_perm _ _).nodup_iff.mpr (nodup_names h.listed c.place)).filter _
  refine ⟨_, shelved_of_names hnodup fun _ => h.mem_bundleNames, ?_⟩
  unfold bundleFiles
  rw [run_caught_bind, run_list h.reached h.folder, List.map_map]
  rfl

/-! ## Taking away -/

theorem Tidy.run_timestampIn (h : c.Tidy d) (hold : c.Stands d name bytes) :
    (timestampIn (c.file name)).run d = (CachedBundle.timestampOf? bytes, d) := by
  obtain ⟨hplace, htarget⟩ := h.place_file hold
  unfold timestampIn
  rw [run_attempt_bind, run_readBytes hplace (htarget ▸ hold.2)]
  rfl

theorem Tidy.run_isStale (h : c.Tidy d) (hold : c.Stands d name bytes) (limit : Int) :
    (isStale limit (c.file name)).run d = (isOld limit bytes, d) := by
  unfold isStale isOld
  rw [state_run_bind, h.run_timestampIn hold]
  cases CachedBundle.timestampOf? bytes <;> rfl

variable (c)

/-- Of these bundles those are gone that a test picks, and everything else is as before. -/
structure Culled (test : List UInt8 → Bool) (files : List (String × List UInt8)) (d d' : Disk) :
    Prop where
  gone : ∀ f ∈ files, test f.2 = true → d'.get? (c.place ++ [f.1]) = none
  kept : ∀ q, (∀ f ∈ files, test f.2 = true → q ≠ c.place ++ [f.1]) → d'.get? q = d.get? q

variable {c} {test : List UInt8 → Bool}

theorem Culled.nil (d : Disk) : c.Culled test [] d d := ⟨by simp, fun _ _ => rfl⟩

/-- A bundle that is not picked stays. -/
theorem Culled.pass {f : String × List UInt8} (hf : test f.2 = false)
    (h : c.Culled test files d d') : c.Culled test (f :: files) d d' where
  gone g hg hpicked := by
    rcases List.mem_cons.mp hg with rfl | hg
    · rw [hf] at hpicked
      exact absurd hpicked (by simp)
    · exact h.gone g hg hpicked
  kept q hq := h.kept q fun g hg => hq g (List.mem_cons_of_mem f hg)

/-- One that is picked is taken away, and the others follow. -/
theorem Culled.cons {f : String × List UInt8} (hf : test f.2 = true)
    (hnew : ∀ g ∈ files, f.1 ≠ g.1) (h : c.Culled test files (d.drop (c.place ++ [f.1])) d') :
    c.Culled test (f :: files) d d' where
  gone g hg hpicked := by
    rcases List.mem_cons.mp hg with rfl | hg
    · rw [h.kept _ fun g' hg' _ heq => hnew g' hg' (Path.name_inj heq), get?_drop d (by simp),
        if_pos rfl]
    · exact h.gone g hg hpicked
  kept q hq := by
    rw [h.kept q fun g hg => hq g (List.mem_cons_of_mem f hg)]
    exact get?_drop_of_ne d (hq f List.mem_cons_self hf)

/-- Of the bundles that are gone over, those that are picked are taken away and counted. -/
theorem Tidy.run_removeWhere (pick : Path → StateM Disk Bool) (test : List UInt8 → Bool)
    (hpick : ∀ {d name bytes}, c.Tidy d → c.Stands d name bytes →
      (pick (c.file name)).run d = (test bytes, d))
    (h : c.Tidy d) (hnodup : (files.map (·.1)).Nodup) (hold : ∀ f ∈ files, c.Stands d f.1 f.2) :
    ∃ d', d.run (removeWhere pick (files.map fun f => c.file f.1)) =
        (.ok (files.countP (test ·.2)), d') ∧ c.Tidy d' ∧ c.Culled test files d d' := by
  induction files generalizing d with
  | nil => exact ⟨d, rfl, h, .nil d⟩
  | cons f files ih =>
    have hfirst := hold f List.mem_cons_self
    have hrest : ∀ g ∈ files, c.Stands d g.1 g.2 := fun g hg => hold g (List.mem_cons_of_mem f hg)
    obtain ⟨hnew, hnodup⟩ := List.nodup_cons.mp hnodup
    have hnew : ∀ g ∈ files, f.1 ≠ g.1 := fun g hg heq =>
      hnew (List.mem_map.mpr ⟨g, hg, heq.symm⟩)
    rw [List.map_cons, run_removeWhere_cons (by rw [hpick h hfirst]), hpick h hfirst]
    cases htest : test f.2 with
    | false =>
      -- the bundle stays
      obtain ⟨d', hrun, htidy, hculled⟩ := ih h hnodup hrest
      refine ⟨d', ?_, htidy, hculled.pass htest⟩
      rw [List.countP_cons_of_neg (by simp [htest])]
      exact hrun
    | true =>
      obtain ⟨hplace, htarget⟩ := h.place_file hfirst
      have hremove := run_remove hplace (htarget ▸ hfirst.2)
      rw [htarget] at hremove
      have hfile : d.get? (c.place ++ [f.1]) ≠ some .folder := by rw [hfirst.2]; simp
      -- the bundle goes, and those still to come stand as they did, since their names differ
      have hkept : ∀ g ∈ files, c.Stands (d.drop (c.place ++ [f.1])) g.1 g.2 := fun g hg =>
        ⟨(hrest g hg).1, (get?_drop_of_ne d fun heq => hnew g hg (Path.name_inj heq).symm).trans
          (hrest g hg).2⟩
      obtain ⟨d', hrun, htidy, hculled⟩ := ih (h.drop hfile) hnodup hkept
      refine ⟨d', ?_, htidy, hculled.cons htest hnew⟩
      rw [List.countP_cons_of_pos (by simp [htest]), if_pos rfl, run_bind, hremove]
      show (d.drop (c.place ++ [f.1])).run (removeWhere pick _ >>= _) = _
      rw [run_bind, hrun]
      rfl

/-! ## Counting -/

/-- The statistics with a file of these bytes counted. -/
def addTo (s : CacheSummary) (bytes : List UInt8) : CacheSummary where
  count := s.count + 1
  bytes := s.bytes + bytes.length
  oldest := ((stampOf bytes).map (earlier s.oldest)).or s.oldest
  newest := ((stampOf bytes).map (later s.newest)).or s.newest

theorem Tidy.run_count (h : c.Tidy d) (hold : c.Stands d name bytes) (s : CacheSummary) :
    d.run (count s (c.file name)) = (.ok (addTo s bytes), d) := by
  obtain ⟨hplace, htarget⟩ := h.place_file hold
  have hlook : d.run (look (c.file name)) = (.ok (some (.file bytes)), d) := by
    rw [run_look, hplace, htarget]
    exact congrArg (fun i => (Except.ok i, d)) hold.2
  unfold count
  rw [run_bind, hlook]
  dsimp only
  rw [pure_bind, run_lift_bind, h.run_timestampIn hold]
  unfold addTo stampOf
  dsimp only
  cases (CachedBundle.timestampOf? bytes).bind Timestamp.ofMillis? <;> rfl

/-- All bundles are counted. -/
theorem Tidy.run_foldlM_count (h : c.Tidy d) (hold : ∀ f ∈ files, c.Stands d f.1 f.2)
    (s : CacheSummary) :
    d.run ((files.map fun f => c.file f.1).foldlM count s) =
      (.ok (files.foldl (fun s f => addTo s f.2) s), d) := by
  induction files generalizing s with
  | nil => rfl
  | cons f files ih =>
    rw [List.map_cons, List.foldlM_cons, run_bind, h.run_count (hold f List.mem_cons_self)]
    exact ih (fun g hg => hold g (List.mem_cons_of_mem f hg)) _

/-- The earliest of the points in time does not hang on the order in which they are met. -/
theorem min?_earlier (o : Option Timestamp) (bytes : List UInt8) (rest : List Int) :
    ((((stampOf bytes).map (earlier o)).or o).toList.map (·.millis) ++ rest).min? =
      (o.toList.map (·.millis) ++ ((stampOf bytes).toList.map (·.millis) ++ rest)).min? := by
  cases stampOf bytes with
  | none => rfl
  | some t =>
    cases o with
    | none => rfl
    | some a =>
      have hmin : (earlier (some a) t).millis = min a.millis t.millis := by
        unfold earlier
        dsimp only
        split <;> omega
      show ((earlier (some a) t).millis :: rest).min? = (a.millis :: t.millis :: rest).min?
      rw [hmin]
      rfl

/-- Neither does the latest. -/
theorem max?_later (o : Option Timestamp) (bytes : List UInt8) (rest : List Int) :
    ((((stampOf bytes).map (later o)).or o).toList.map (·.millis) ++ rest).max? =
      (o.toList.map (·.millis) ++ ((stampOf bytes).toList.map (·.millis) ++ rest)).max? := by
  cases stampOf bytes with
  | none => rfl
  | some t =>
    cases o with
    | none => rfl
    | some a =>
      have hmax : (later (some a) t).millis = max a.millis t.millis := by
        unfold later
        dsimp only
        split <;> omega
      show ((later (some a) t).millis :: rest).max? = (a.millis :: t.millis :: rest).max?
      rw [hmax]
      rfl

theorem stamps_cons (f : String × List UInt8) (files : List (String × List UInt8)) :
    stamps (f :: files) = (stampOf f.2).toList.map (·.millis) ++ stamps files := by
  unfold stamps
  cases h : stampOf f.2 <;> simp [h]

/-- The statistics of these bundles, counted on top of others. -/
structure Counts (before : CacheSummary) (files : List (String × List UInt8)) (s : CacheSummary) :
    Prop where
  count : s.count = before.count + files.length
  bytes : s.bytes = before.bytes + (files.map fun f => f.2.length).sum
  oldest : s.oldest.map (·.millis) = (before.oldest.toList.map (·.millis) ++ stamps files).min?
  newest : s.newest.map (·.millis) = (before.newest.toList.map (·.millis) ++ stamps files).max?

theorem counts_foldl (files : List (String × List UInt8)) (s : CacheSummary) :
    Counts s files (files.foldl (fun s f => addTo s f.2) s) := by
  induction files generalizing s with
  | nil =>
    rw [List.foldl_nil]
    refine ⟨rfl, rfl, ?_, ?_⟩
    · cases s.oldest <;> rfl
    · cases s.newest <;> rfl
  | cons f files ih =>
    obtain ⟨hcount, hbytes, holdest, hnewest⟩ := ih (addTo s f.2)
    rw [List.foldl_cons]
    refine ⟨hcount.trans ?_, hbytes.trans ?_, holdest.trans ?_, hnewest.trans ?_⟩
    · show s.count + 1 + files.length = s.count + (files.length + 1)
      omega
    · rw [List.map_cons, List.sum_cons, addTo, Nat.add_assoc]
    · rw [stamps_cons]
      exact min?_earlier s.oldest f.2 (stamps files)
    · rw [stamps_cons]
      exact max?_later s.newest f.2 (stamps files)

theorem Tidy.run_summary (h : c.Tidy d) (hfiles : c.Shelved d files)
    (hrun : d.run c.bundleFiles = (.ok (files.map fun f => c.file f.1), d)) :
    ∃ s, d.run c.summary = (.ok s, d) ∧ Counts ⟨0, 0, none, none⟩ files s := by
  refine ⟨_, ?_, counts_foldl files ⟨0, 0, none, none⟩⟩
  unfold summary
  rw [run_bind, hrun]
  exact h.run_foldlM_count (fun f hf => (hfiles.mem f.1 f.2).mp hf) _

/-! ## All of it -/

variable (c)

/-- What maintenance comes to where these bundles stand. -/
structure Maintained (d : Disk) (files : List (String × List UInt8)) : Prop where
  /-- All are counted, whatever is in them, and nothing is changed. -/
  summary : ∃ s, d.run c.summary = (.ok s, d) ∧ s.count = files.length ∧
    s.bytes = (files.map fun f => f.2.length).sum ∧
    s.oldest.map (·.millis) = (stamps files).min? ∧ s.newest.map (·.millis) = (stamps files).max?
  /-- All are taken away. -/
  removeAll : ∃ d', d.run c.removeAll = (.ok files.length, d') ∧
    c.Culled (fun _ => true) files d d'
  /-- The old ones are taken away, and none is left that is known to be old. -/
  removeOlderThan (now : Int) (age : Duration) : ∃ d' s,
    d.run (c.removeOlderThan now age) =
      (.ok (files.countP fun f => isOld (cutoff now age) f.2), d') ∧
    c.Culled (isOld (cutoff now age)) files d d' ∧
    d'.run c.summary = (.ok s, d') ∧ ∀ t, s.oldest = some t → cutoff now age ≤ t.millis
  /-- Old is what was made before the point in time that is that far back, as far as 64 bits go. -/
  old (now : Int) (age : Duration) {t : Int} (ht : Json.Number.minSigned64 ≤ t) :
    t < cutoff now age ↔ t < now - min (age.millis : Int) Json.Number.maxSigned64

theorem lt_cutoff_iff {now t : Int} {age : Duration} (ht : Json.Number.minSigned64 ≤ t) :
    t < cutoff now age ↔ t < now - min (age.millis : Int) Json.Number.maxSigned64 := by
  show t < max (now - min (age.millis : Int) Json.Number.maxSigned64) Json.Number.minSigned64 ↔ _
  omega

variable {c}

/-- What is left once the old bundles are gone is not old. -/
theorem Culled.not_old {limit : Int} (hfiles : c.Shelved d files)
    (h : c.Culled (isOld limit) files d d') {f : String × List UInt8}
    (hold : c.Stands d' f.1 f.2) : isOld limit f.2 = false := by
  have hnone : ∀ g ∈ files, isOld limit g.2 = true → c.place ++ [f.1] ≠ c.place ++ [g.1] := by
    intro g hg hgold heq
    have hgone := h.gone g hg hgold
    rw [← heq, hold.2] at hgone
    exact absurd hgone (by simp)
  have hstood : c.Stands d f.1 f.2 := ⟨hold.1, (h.kept _ hnone).symm.trans hold.2⟩
  by_contra hf
  exact hnone f ((hfiles.mem f.1 f.2).mpr hstood) (by simpa using hf) rfl

theorem le_of_stampOf {limit : Int} {t : Timestamp} (hnew : isOld limit bytes = false)
    (ht : stampOf bytes = some t) : limit ≤ t.millis := by
  obtain ⟨m, hm, hmillis⟩ := Option.bind_eq_some_iff.mp ht
  unfold Timestamp.ofMillis? at hmillis
  split_ifs at hmillis
  obtain rfl := Option.some.inj hmillis
  rw [isOld, hm] at hnew
  simpa using hnew

/-- Maintenance goes over all bundles in the folder of the cache, and over nothing else. -/
theorem maintained (h : c.Tidy d) : ∃ files, c.Shelved d files ∧ c.Maintained d files := by
  obtain ⟨files, hfiles, hrun⟩ := h.run_bundleFiles
  have hold : ∀ f ∈ files, c.Stands d f.1 f.2 := fun f hf => (hfiles.mem f.1 f.2).mp hf
  refine ⟨files, hfiles, ?_, ?_, fun now age => ?_, fun _ _ _ => lt_cutoff_iff⟩
  · -- the summary counts all bundles
    obtain ⟨s, hsummary, hcounts⟩ := h.run_summary hfiles hrun
    refine ⟨s, hsummary, ?_, ?_, hcounts.oldest, hcounts.newest⟩
    · rw [hcounts.count, Nat.zero_add]
    · rw [hcounts.bytes, Nat.zero_add]
  · -- all bundles are taken away
    obtain ⟨d', hwhere, -, hculled⟩ := h.run_removeWhere (fun _ => pure true) (fun _ => true)
      (fun _ _ => rfl) hfiles.nodup hold
    refine ⟨d', ?_, hculled⟩
    unfold removeAll
    rw [run_bind, hrun]
    rw [List.countP_true] at hwhere
    exact hwhere
  · -- those that are too old are taken away, and none that is left is
    obtain ⟨d', hwhere, htidy, hculled⟩ := h.run_removeWhere (isStale (cutoff now age))
      (isOld (cutoff now age)) (fun h hold => h.run_isStale hold _) hfiles.nodup hold
    obtain ⟨files', hfiles', hrun'⟩ := htidy.run_bundleFiles
    obtain ⟨s, hsummary, hcounts⟩ := htidy.run_summary hfiles' hrun'
    refine ⟨d', s, ?_, hculled, hsummary, fun t ht => ?_⟩
    · unfold removeOlderThan
      rw [run_bind, hrun]
      exact hwhere
    · have hmem : t.millis ∈ stamps files' := by
        have hmin := hcounts.oldest
        rw [ht] at hmin
        exact List.min?_mem hmin.symm
      obtain ⟨t', ht', hmillis⟩ := List.mem_map.mp hmem
      obtain ⟨f, hf, hstamp⟩ := List.mem_filterMap.mp ht'
      rw [← hmillis]
      exact le_of_stampOf (hculled.not_old hfiles ((hfiles'.mem f.1 f.2).mp hf)) hstamp

/-- In a folder that is not there nothing stands. -/
theorem maintained_of_missing (h : d.run (list c.folder) = (.error .notFound, d)) :
    c.Maintained d [] := by
  have hrun : d.run c.bundleFiles = (.ok [], d) := by
    unfold bundleFiles
    rw [run_caught_bind, h]
    rfl
  have hsummary : d.run c.summary = (.ok ⟨0, 0, none, none⟩, d) := by
    unfold summary
    rw [run_bind, hrun]
    rfl
  refine ⟨⟨_, hsummary, rfl, rfl, rfl, rfl⟩, ⟨d, ?_, .nil d⟩, fun now age => ⟨d, _, ?_, .nil d,
    hsummary, fun t ht => absurd ht (by simp)⟩, fun _ _ _ => lt_cutoff_iff⟩
  · unfold removeAll
    rw [run_bind, hrun]
    rfl
  · unfold removeOlderThan
    rw [run_bind, hrun]
    rfl

end Cache

/-! ## A folder with other things in it, and one that is too far away -/

/-- A disk with a bundle that nobody can read, the draft of another and a folder in the folder of the
shelf. -/
def mixedShelf : Disk :=
  ⟨[(["cache"], .folder), (["cache", "a.json"], .file [120]), (["cache", "b.json.1.tmp"], .file []),
    (["cache", "old"], .folder)]⟩

theorem mixedShelf_maintained :
    shelf.Tidy mixedShelf ∧
      ∃ files, shelf.Shelved mixedShelf files ∧ shelf.Maintained mixedShelf files := by
  have hplace : shelf.place = ["cache"] := by decide
  have hitem : ∀ name i, mixedShelf.get? (shelf.place ++ [name]) = some i →
      Cache.isBundleName name = true → name = "a.json" ∧ i = .file [120] := by
    intro name i hget hname
    rw [hplace] at hget
    have hmem := mem_of_get? (by simp) hget
    simp only [mixedShelf, List.mem_cons, Prod.mk.injEq, List.cons_append, List.nil_append,
      List.cons.injEq, List.not_mem_nil, or_false, true_and, and_true] at hmem
    rcases hmem with ⟨h, -⟩ | ⟨rfl, rfl⟩ | ⟨rfl, -⟩ | ⟨rfl, -⟩
    · exact absurd h (by simp)
    · exact ⟨rfl, rfl⟩
    · exact absurd hname (by decide)
    · exact absurd hname (by decide)
  have htidy : shelf.Tidy mixedShelf := {
    listed := ⟨by decide, by decide⟩
    reached := by rw [hplace]; decide
    folder := by rw [hplace]; decide
    plain := fun name hname hget => absurd (hitem name _ hget hname).2 (by simp)
    short := by
      intro name bytes hname hget
      obtain ⟨rfl, -⟩ := hitem name _ hget hname
      decide }
  exact ⟨htidy, Cache.maintained htidy⟩

/-- Every part of a path has a slash in front of it. -/
theorem Path.utf8ByteSize_text {p : Path} (hp : p ≠ []) :
    p.text.utf8ByteSize = p.length + (p.map String.utf8ByteSize).sum := by
  have hparts : ∀ (part : String) (rest : Path), (String.intercalate "/" (part :: rest)).utf8ByteSize =
      rest.length + ((part :: rest).map String.utf8ByteSize).sum := by
    intro part rest
    induction rest generalizing part with
    | nil => simp
    | cons next rest ih =>
      have hslash : "/".utf8ByteSize = 1 := rfl
      have hrest := ih next
      rw [String.intercalate_cons_cons, String.utf8ByteSize_append, String.utf8ByteSize_append,
        hrest, List.length_cons]
      simp only [List.map_cons, List.sum_cons]
      omega
  obtain ⟨part, rest, rfl⟩ := List.exists_cons_of_ne_nil hp
  have hslash : "/".utf8ByteSize = 1 := rfl
  rw [Path.text, String.utf8ByteSize_append, hparts, List.length_cons]
  omega

/-- Points make a path longer, -/
theorem utf8ByteSize_points (n : Nat) {p : Path} (hp : p ≠ []) :
    (Path.text (List.replicate n "." ++ p)).utf8ByteSize = 2 * n + p.text.utf8ByteSize := by
  have hpoint : ".".utf8ByteSize = 1 := rfl
  rw [Path.utf8ByteSize_text (by simp [hp]), Path.utf8ByteSize_text hp, List.length_append,
    List.map_append, List.sum_append, List.length_replicate, List.map_replicate,
    List.sum_replicate_nat, hpoint]
  omega

/-- and lead nowhere else. -/
theorem placeFrom_points (d : Disk) (n : Nat) (p : Path) :
    d.placeFrom [] (List.replicate n "." ++ p) = d.placeFrom [] p := by
  induction n with
  | zero => rfl
  | succ n ih =>
    rw [List.replicate_succ, List.cons_append, ← ih]
    rfl

/-- A cache whose folder is close, by a path with so many points. -/
def farShelf (n : Nat) : Cache :=
  ⟨List.replicate n "." ++ ["cache"], 1⟩

/-- A long name of a bundle. -/
def farName : String :=
  String.ofList (List.replicate 250 'a' ++ Cache.jsonEnding)

theorem isBundleName_farName : Cache.isBundleName farName = true := by
  have hname : farName.toList = List.replicate 250 'a' ++ Cache.jsonEnding := String.toList_ofList
  have hlength : farName.length = 255 := by
    rw [farName, String.length_ofList, List.length_append, List.length_replicate]
    rfl
  rw [Cache.isBundleName, hname, hlength, Bool.and_eq_true, Text.endsIn, List.isSuffixOf_iff_suffix]
  exact ⟨List.suffix_append _ _, by decide⟩

/-- A disk with that bundle in the folder. -/
def farDisk : Disk :=
  ⟨[(["cache"], .folder), (["cache", farName], .file [120])]⟩

theorem get?_farName : farDisk.get? ["cache", farName] = some (.file [120]) := by
  simp [get?, farDisk]

section Far

variable {n : Nat}

theorem place_farShelf (hshort : 2 * n + 6 < Path.limit) :
    farDisk.place (farShelf n).folder = .ok ["cache"] := by
  have hsize : (farShelf n).folder.text.utf8ByteSize = 2 * n + 6 := by
    rw [farShelf, utf8ByteSize_points n (by decide)]
    rfl
  rw [place, hsize, if_neg (Nat.not_le.mpr hshort), farShelf, placeFrom_points]
  decide +kernel

theorem place_farName (hlong : Path.limit ≤ 2 * n + 262) :
    farDisk.place ((farShelf n).file farName) = .error .tooLong := by
  have hfile : (farShelf n).file farName = List.replicate n "." ++ ["cache", farName] := by
    rw [Cache.file, Path.child, farShelf, List.getLast?_concat, if_neg (by decide),
      List.append_assoc, List.singleton_append]
  have hname : (Path.text ["cache", farName]).utf8ByteSize = 262 := by decide +kernel
  rw [place, hfile, utf8ByteSize_points n (by simp), hname, if_pos hlong]

/-- If the path of a bundle is too long, maintenance fails. -/
theorem run_farShelf (hshort : 2 * n + 6 < Path.limit) (hlong : Path.limit ≤ 2 * n + 262) :
    farDisk.run (farShelf n).summary = (.error .tooLong, farDisk) ∧
      farDisk.run (farShelf n).removeAll = (.error .tooLong, farDisk) := by
  have hnames : (farDisk.names ["cache"]).mergeSort.filter Cache.isBundleName = [farName] := by
    have hall : farDisk.names ["cache"] = [farName] := rfl
    rw [hall, List.mergeSort_singleton, List.filter_singleton, isBundleName_farName]
    rfl
  have hfiles : farDisk.run (farShelf n).bundleFiles =
      (.ok [(farShelf n).file farName], farDisk) := by
    unfold Cache.bundleFiles
    rw [run_caught_bind, run_list (place_farShelf hshort) rfl]
    show farDisk.run
      (pure (((farDisk.names ["cache"]).mergeSort.filter _).map (farShelf n).file)) = _
    rw [hnames]
    rfl
  constructor
  · unfold Cache.summary
    rw [run_bind, hfiles]
    show farDisk.run (Cache.count _ ((farShelf n).file farName) >>= _) = _
    unfold Cache.count
    rw [run_bind, run_bind, run_look, place_farName hlong]
  · unfold Cache.removeAll
    rw [run_bind, hfiles]
    show farDisk.run (Disk.remove ((farShelf n).file farName) >>= _) = _
    unfold Disk.remove
    rw [run_bind, run_bind, run_locate, place_farName hlong]

end Far

/-- A folder with a single bundle in it, which is neither counted nor taken away. -/
theorem farShelf_not_maintained :
    farDisk.place (farShelf 1948).folder = .ok ["cache"] ∧ Cache.isBundleName farName = true ∧
      farDisk.get? ["cache", farName] = some (.file [120]) ∧
      farDisk.run (farShelf 1948).summary = (.error .tooLong, farDisk) ∧
      farDisk.run (farShelf 1948).removeAll = (.error .tooLong, farDisk) :=
  ⟨place_farShelf (by decide), isBundleName_farName, get?_farName,
    run_farShelf (by decide) (by decide)⟩

end AppBundle
