import AppBundle.Locator.Report
import AppBundle.Proofs.Locator.Calls
import AppBundle.Proofs.Text.Lines
import Mathlib.Data.List.Forall2
import Mathlib.Logic.Relation

/-!
# Foreign frames

A frame is foreign if its file is neither the bundle, nor the entry, nor the module of a script
(`Locator.IsForeign`). A foreign frame stays as it is, whatever the locator knows of other files, and
what is shown for a stack trace is the same without it. Every other frame that is resolved is shown in
the app file.
-/

namespace AppBundle

open AppBundle.Text

/-! ## Files at the end of a path -/

/-- A path is a name, or it ends in one behind a slash of either kind. -/
def EndsInName (path name : String) : Prop :=
  ∃ front, path.toList = front ++ name.toList ∧ ∀ c, front.getLast? = some c → isSlash c = true

theorem namesFile_iff_endsInName {path name : String} :
    namesFile path name = true ↔ EndsInName path name := by
  rw [namesFile, Bool.or_eq_true, decide_eq_true_eq]
  constructor
  · rintro (rfl | h)
    · exact ⟨[], (List.nil_append _).symm, by simp⟩
    · split at h
      · next front hfront =>
        refine ⟨front, before?_eq_some_iff.mp hfront, fun c hc => ?_⟩
        simpa [hc, isSlash] using h
      · exact absurd h (by simp)
  · rintro ⟨front, hpath, hslash⟩
    cases hlast : front.getLast? with
    | none =>
      obtain rfl := List.getLast?_eq_none_iff.mp hlast
      exact .inl (String.toList_inj.mp hpath)
    | some c =>
      have hc := hslash c hlast
      rw [before?_eq_some_iff.mpr hpath]
      simpa [hlast, isSlash] using Or.inr hc

/-- A path ends in a name without slashes if what stands behind its last slash is that name. -/
theorem endsInName_iff {path name : String} (hname : SlashFree name) :
    EndsInName path name ↔ fileName path = name := by
  rw [← namesFile_iff_endsInName, namesFile_iff hname]

namespace Locator

variable {t : Locator} {raw : StackFrame} {m : Option Mappings} {place : AppPlace}

/-- A frame whose file is neither the bundle, nor the entry, nor the module of a script. -/
structure IsForeign (t : Locator) (raw : StackFrame) : Prop where
  bundle : ∀ name, t.runFile = some name → ¬ EndsInName raw.file name
  entry : ¬ EndsInName raw.file entryFile
  modules : ∀ o ∈ t.origins, ¬ EndsInName raw.file o.file

/-- The files of a locator have names without slashes. -/
structure NamesSlashFree (t : Locator) : Prop where
  bundle : ∀ name, t.runFile = some name → SlashFree name
  modules : ∀ o ∈ t.origins, SlashFree o.file

/-- Where names have no slashes, a frame is foreign if its file has none of them behind its last
slash. -/
theorem NamesSlashFree.isForeign_iff (h : t.NamesSlashFree) :
    t.IsForeign raw ↔ (∀ name, t.runFile = some name → fileName raw.file ≠ name) ∧
      fileName raw.file ≠ entryFile ∧ ∀ o ∈ t.origins, fileName raw.file ≠ o.file := by
  constructor
  · rintro ⟨hbundle, hentry, hmodules⟩
    refine ⟨fun name hname => ?_, ?_, fun o ho => ?_⟩
    · exact mt (endsInName_iff (h.bundle name hname)).mpr (hbundle name hname)
    · exact mt (endsInName_iff slashFree_entryFile).mpr hentry
    · exact mt (endsInName_iff (h.modules o ho)).mpr (hmodules o ho)
  · rintro ⟨hbundle, hentry, hmodules⟩
    refine ⟨fun name hname => ?_, ?_, fun o ho => ?_⟩
    · exact mt (endsInName_iff (h.bundle name hname)).mp (hbundle name hname)
    · exact mt (endsInName_iff slashFree_entryFile).mp hentry
    · exact mt (endsInName_iff (h.modules o ho)).mp (hmodules o ho)

theorem IsForeign.originOf? (h : t.IsForeign raw) : t.originOf? raw.file = none := by
  refine List.find?_eq_none.mpr fun o ho hnames => ?_
  exact h.modules o ho (namesFile_iff_endsInName.mp hnames)

theorem IsForeign.namesFile_entryFile (h : t.IsForeign raw) :
    namesFile raw.file entryFile = false := by
  rw [Bool.eq_false_iff, Ne, namesFile_iff_endsInName]
  exact h.entry

theorem IsForeign.namesBundle (h : t.IsForeign raw) : t.namesBundle raw.file = false := by
  unfold Locator.namesBundle
  split
  · next name hname =>
    rw [Bool.eq_false_iff, Ne, namesFile_iff_endsInName]
    exact h.bundle name hname
  · rfl

/-- A foreign frame is not resolved. -/
theorem IsForeign.resolve? (h : t.IsForeign raw) (m : Option Mappings) :
    t.resolve? m raw = none := by
  simp only [Locator.resolve?, h.originOf?, h.namesFile_entryFile, h.namesBundle,
    Bool.false_eq_true, if_false]

/-- It stays as it is, and the locator with it. -/
theorem IsForeign.frame (h : t.IsForeign raw) : t.frame raw = (foreign raw, t, []) := by
  have hneeds : t.needsMappings raw = false := by
    simp [needsMappings, h.namesBundle]
  simp only [Locator.frame, hneeds, Bool.false_eq_true, if_false, frameWith, h.resolve?]

/-! ## Kinds -/

theorem ofName?_ne_unknown (name : String) : CodeKind.ofName? name ≠ some .unknown := by
  unfold CodeKind.ofName?
  simp only
  split_ifs <;> simp

theorem ofModule?_ne_unknown (file : String) : CodeKind.ofModule? file ≠ some .unknown := by
  unfold CodeKind.ofModule?
  split_ifs <;> simp

theorem kind_of_nearLine? {line : Nat} (h : t.nearLine? line = some place) :
    place.kind ≠ some .unknown := by
  obtain ⟨⟨_, o⟩, -, rfl⟩ := Option.map_eq_some_iff.mp h
  exact ofName?_ne_unknown o.owner

theorem kind_of_byMappings? {ms : Mappings} (h : t.byMappings? ms raw = some place) :
    place.kind ≠ some .unknown := by
  unfold byMappings? at h
  simp only [Option.bind_eq_bind, Option.bind_eq_some_iff] at h
  obtain ⟨map, -, p, -, source, -, h⟩ := h
  split at h
  · obtain rfl := Option.some.inj h
    exact ofModule?_ne_unknown _
  · split at h
    · obtain ⟨o, -, rfl⟩ := Option.map_eq_some_iff.mp h
      exact ofName?_ne_unknown o.owner
    · exact absurd h (by simp)

/-- A place that a frame is resolved to is not of a kind of which nothing is known. -/
theorem kind_of_resolve? (h : t.resolve? m raw = some place) : place.kind ≠ some .unknown := by
  unfold Locator.resolve? at h
  split at h
  · obtain rfl := Option.some.inj h
    exact ofModule?_ne_unknown _
  · split at h
    · exact kind_of_nearLine? h
    · split at h
      · cases hby : m.bind (t.byMappings? · raw) with
        | none =>
          rw [hby] at h
          exact kind_of_nearLine? h
        | some p =>
          rw [hby] at h
          obtain rfl : p = place := Option.some.inj h
          obtain ⟨ms, -, hms⟩ := Option.bind_eq_some_iff.mp hby
          exact kind_of_byMappings? hms
      · exact absurd h (by simp)

/-- How a frame is reported. -/
structure Reports (t : Locator) (raw : StackFrame) (f : LocatedFrame) : Prop where
  /-- A foreign frame stays as it is, without a line of the app file. -/
  foreign (h : t.IsForeign raw) :
    f = ⟨raw.function.getD "<anonymous>", raw.file, raw.line, some raw.column, none, .unknown, raw⟩
  /-- A frame that is resolved is reported in the app file, and something is known of its code. -/
  resolved {place : AppPlace} (h : t.resolve? t.mappings raw = some place) :
    f.file = t.sourceId ∧ f.line = place.line ∧ f.kind ≠ .unknown

theorem reports_frameWith (t : Locator) (raw : StackFrame) :
    t.Reports raw (t.frameWith t.mappings raw) where
  foreign h := by
    rw [frameWith, h.resolve?]
    rfl
  resolved {place} h := by
    obtain ⟨hfile, hline, -⟩ := App.frameWith_of_resolve? h
    refine ⟨hfile, hline, ?_⟩
    have hplace := kind_of_resolve? h
    rw [frameWith, h]
    show ((raw.function.bind CodeKind.ofName? <|> place.kind).getD .script) ≠ .unknown
    cases hname : raw.function.bind CodeKind.ofName? with
    | none =>
      cases hkind : place.kind with
      | none => simp
      | some k =>
        rintro rfl
        exact hplace hkind
    | some k =>
      rintro rfl
      obtain ⟨name, -, hk⟩ := Option.bind_eq_some_iff.mp hname
      exact ofName?_ne_unknown name hk

end Locator

/-! ## Traces with fewer lines -/

namespace StackTrace

variable {front back : List Line} {f : StackFrame}

/-- No text stands behind a frame. -/
def TextsFirst (ls : List Line) : Prop :=
  ls.Pairwise fun x y => (∃ f, x = .frame f) → ∀ s, y ≠ .text s

/-- Lines without a text have no message. -/
theorem messageLines_eq_nil {ls : List Line} (h : ∀ l ∈ ls, ∀ s, l ≠ .text s) :
    messageLines ls = [] := by
  induction ls with
  | nil => rfl
  | cons l ls ih =>
    cases l with
    | frame f => rfl
    | unreadable => exact ih fun m hm => h m (List.mem_cons_of_mem _ hm)
    | text s => exact absurd rfl (h _ List.mem_cons_self s)

/-- The message is the same without one of the frames: all texts stand in front of it. -/
theorem messageLines_without (h : TextsFirst (front ++ .frame f :: back)) :
    messageLines (front ++ back) = messageLines (front ++ .frame f :: back) := by
  induction front with
  | nil =>
    have hback := (List.pairwise_cons.mp h).1
    exact messageLines_eq_nil fun l hl => hback l hl ⟨f, rfl⟩
  | cons l front ih =>
    have hrest := ih (List.pairwise_cons.mp h).2
    cases l with
    | frame g => rfl
    | unreadable => exact hrest
    | text s => exact congrArg (s :: ·) hrest

end StackTrace

namespace Locator

open StackTrace

variable {t u : Locator} {f : StackFrame}

/-- A line that is read as a foreign frame. -/
def ForeignLine (t : Locator) (line : String) : Prop :=
  ∃ f, readLine line = .frame f ∧ t.IsForeign f

/-- Lines with one of them cut out that is read as a foreign frame. -/
inductive Cut (t : Locator) : List String → List String → Prop where
  | intro (front back : List String) {line : String} (h : t.ForeignLine line) :
      t.Cut (front ++ line :: back) (front ++ back)

/-- A line that is deleted from a text together with the line feed that ends it is cut out of the
lines. -/
theorem cut_of_ended {front line : List Char} (back : List Char)
    (hfront : ∀ c, front.getLast? = some c → c = '\n') (hline : '\n' ∉ line)
    (h : t.ForeignLine (String.ofList (dropReturn line))) :
    t.Cut (stringLines (String.ofList (front ++ (line ++ '\n' :: back))))
      (stringLines (String.ofList (front ++ back))) := by
  obtain ⟨ls, hls⟩ := exists_lines_append hfront
  have hcut := Cut.intro (ls.map String.ofList) ((lines back).map String.ofList) h
  simpa [stringLines, hls, lines_append_feed hline] using hcut

/-- So is the last line if nothing ends it. -/
theorem cut_of_unended {front line : List Char}
    (hfront : ∀ c, front.getLast? = some c → c = '\n') (hline : '\n' ∉ line)
    (h : t.ForeignLine (String.ofList line)) :
    t.Cut (stringLines (String.ofList (front ++ line))) (stringLines (String.ofList front)) := by
  obtain ⟨ls, hls⟩ := exists_lines_append hfront
  have hempty : lines front = ls := by
    have hnil := hls []
    rwa [List.append_nil, show lines [] = [] from rfl, List.append_nil] at hnil
  have hne : line ≠ [] := by
    rintro rfl
    obtain ⟨f, hf, -⟩ := h
    have htext : readLine (String.ofList []) = .text "" := by decide
    exact Line.noConfusion (htext.symm.trans hf)
  have hcut := Cut.intro (ls.map String.ofList) [] h
  simpa [stringLines, hls, hempty, lines_of_notMem hline hne] using hcut

theorem SameBut.isForeign (h : u.SameBut t) (hf : t.IsForeign f) : u.IsForeign f := by
  rw [h.1]
  exact ⟨hf.bundle, hf.entry, hf.modules⟩

/-- Without one foreign frame the others are located as before, and the same is logged. -/
theorem locateFrames_without (h : t.IsForeign f) (front back : List StackFrame) :
    (t.locateFrames (front ++ back)).2 = (t.locateFrames (front ++ f :: back)).2 := by
  induction front generalizing t with
  | nil => simp [locateFrames, h.frame]
  | cons g front ih =>
    have hrest := ih (((SameBut.refl t).frame g).isForeign h)
    simp [locateFrames, hrest]

/-- A foreign frame is not shown. -/
theorem IsForeign.isInApp_frameWith (h : t.IsForeign f) (m : Option Mappings) :
    (t.frameWith m f).isInApp = false := by
  rw [frameWith, h.resolve?]
  rfl

/-- What is the same for the lines of two traces. -/
structure LocatedAlike (t : Locator) (ls ms : List Line) : Prop where
  message : messageLines ms = messageLines ls
  inApp : (t.locateFrames (framesOf ms)).1.filter (·.isInApp) =
    (t.locateFrames (framesOf ls)).1.filter (·.isInApp)
  /-- The locator behind the frames and what is logged. -/
  behind : (t.locateFrames (framesOf ms)).2 = (t.locateFrames (framesOf ls)).2

/-- One cut. -/
theorem Cut.locatedAlike {ls ms : List String} (h : t.Cut ls ms)
    (hfirst : TextsFirst (ls.map readLine)) :
    t.LocatedAlike (ls.map readLine) (ms.map readLine) ∧ TextsFirst (ms.map readLine) := by
  obtain ⟨front, back, f, hread, hf⟩ := h
  rw [List.map_append, List.map_cons, hread] at hfirst
  rw [List.map_append, List.map_append, List.map_cons, hread]
  have hframes : framesOf (front.map readLine ++ .frame f :: back.map readLine) =
      framesOf (front.map readLine) ++ f :: framesOf (back.map readLine) :=
    List.filterMap_append
  have hframes' : framesOf (front.map readLine ++ back.map readLine) =
      framesOf (front.map readLine) ++ framesOf (back.map readLine) :=
    List.filterMap_append
  refine ⟨⟨messageLines_without hfirst, ?_, ?_⟩, ?_⟩
  · simp [fst_locateFrames, hframes, hframes', hf.isInApp_frameWith]
  · rw [hframes, hframes', locateFrames_without hf]
  · exact hfirst.sublist ((List.sublist_cons_self _ _).append_left _)

/-- Any number of cuts. -/
theorem locatedAlike_of_cuts {ls ms : List String} (h : Relation.ReflTransGen t.Cut ls ms)
    (hfirst : TextsFirst (ls.map readLine)) :
    t.LocatedAlike (ls.map readLine) (ms.map readLine) ∧ TextsFirst (ms.map readLine) := by
  induction h with
  | refl => exact ⟨⟨rfl, rfl, rfl⟩, hfirst⟩
  | tail _ hcut ih =>
    obtain ⟨hbefore, hnext⟩ := ih
    obtain ⟨hafter, hrest⟩ := hcut.locatedAlike hnext
    exact ⟨⟨hafter.message.trans hbefore.message, hafter.inApp.trans hbefore.inApp,
      hafter.behind.trans hbefore.behind⟩, hrest⟩

/-- Foreign frames stay as they are and frames that are resolved are reported in the app file. Where
no text stands behind a frame, foreign frames that are cut out of a stack trace are not missed: the
message, what is shown, what is logged and the locator behind are the same. Where the files have names
without slashes, the foreign frames are those with none of these names behind the last slash. -/
theorem locate_foreign (t : Locator) (raw : String) :
    List.Forall₂ t.Reports (parse raw).frames (t.locate raw).1.frames ∧
    (TextsFirst ((stringLines raw).map readLine) →
      ∀ rest, Relation.ReflTransGen t.Cut (stringLines raw) (stringLines rest) →
        (t.locate rest).1.message = (t.locate raw).1.message ∧
        (t.locate rest).1.show = (t.locate raw).1.show ∧
        (t.locate rest).2 = (t.locate raw).2) ∧
    (t.NamesSlashFree → ∀ f, t.IsForeign f ↔
      (∀ name, t.runFile = some name → fileName f.file ≠ name) ∧
        fileName f.file ≠ entryFile ∧ ∀ o ∈ t.origins, fileName f.file ≠ o.file) := by
  refine ⟨?_, fun hfirst rest hrest => ?_, fun hnames f => hnames.isForeign_iff⟩
  · rw [locate_eq, fst_locateFrames, List.forall₂_map_right_iff]
    exact List.forall₂_same.mpr fun f _ => t.reports_frameWith f
  · obtain ⟨halike, -⟩ := locatedAlike_of_cuts hrest hfirst
    have hmessage : (t.locate rest).1.message = (t.locate raw).1.message := by
      rw [locate_eq, locate_eq, parse, parse, halike.message]
    have hinApp : (t.locate rest).1.inApp = (t.locate raw).1.inApp := by
      rw [locate_eq, locate_eq]
      exact halike.inApp
    refine ⟨hmessage, ?_, ?_⟩
    · rw [LocatedTrace.show, LocatedTrace.show, hmessage, hinApp]
    · rw [locate_eq, locate_eq]
      exact halike.behind

/-- A locator for a bundle in a folder, whose first line is line 7 of the app file. -/
def folderLocator : Locator where
  sourceId := "/app.melker"
  runFile := some "dist/bundle.js"
  content := none
  lineTable := ⟨[(1, ⟨7, "s0", "script"⟩)], List.pairwise_singleton _ _⟩
  origins := []
  sourceMap := none
  decoded := none

/-- A stack trace with one frame, in the bundle. -/
def bundleTrace : String := "Error: boom\n    at f (dist/bundle.js:1:1)\n"

/-- The line of a frame in the driver. -/
def driverLine : String := "    at run (ext:core/driver.js:4:9)"

/-- The stack trace with the frame of the driver below it. -/
def driverTrace : String := bundleTrace ++ driverLine ++ "\n"

/-- The frame of the driver is cut out of the trace, and the same is shown. -/
theorem driverTrace_show :
    Relation.ReflTransGen folderLocator.Cut (stringLines driverTrace) (stringLines bundleTrace) ∧
      (folderLocator.locate bundleTrace).1.show = (folderLocator.locate driverTrace).1.show := by
  have hfirst : TextsFirst ((stringLines driverTrace).map readLine) := by
    have hlines : (stringLines driverTrace).map readLine = [.text "Error: boom",
        .frame ⟨some "f", "dist/bundle.js", 1, 1⟩,
        .frame ⟨some "run", "ext:core/driver.js", 4, 9⟩] := by
      decide +kernel
    rw [hlines]
    simp [TextsFirst]
  have hforeign : folderLocator.ForeignLine (String.ofList (dropReturn driverLine.toList)) := by
    refine ⟨⟨some "run", "ext:core/driver.js", 4, 9⟩, by decide +kernel, ?_⟩
    refine ⟨fun name hname => ?_, ?_, fun o ho => absurd ho List.not_mem_nil⟩
    · obtain rfl : "dist/bundle.js" = name := Option.some.inj hname
      rw [← namesFile_iff_endsInName]
      decide +kernel
    · rw [← namesFile_iff_endsInName]
      decide +kernel
  have hcut : folderLocator.Cut (stringLines driverTrace) (stringLines bundleTrace) := by
    have hended : ∀ c, bundleTrace.toList.getLast? = some c → c = '\n' := by
      have hlast : bundleTrace.toList.getLast? = some '\n' := by decide +kernel
      intro c hc
      exact (Option.some.inj (hlast.symm.trans hc)).symm
    have hline := cut_of_ended [] hended (by decide +kernel) hforeign
    rwa [show String.ofList (bundleTrace.toList ++ (driverLine.toList ++ ['\n'])) = driverTrace by
        decide +kernel,
      show String.ofList (bundleTrace.toList ++ []) = bundleTrace by decide +kernel] at hline
  have hcuts := Relation.ReflTransGen.single hcut
  exact ⟨hcuts, ((locate_foreign folderLocator driverTrace).2.1 hfirst bundleTrace hcuts).2.1⟩

/-- Where the name of the bundle has a slash, a frame in the bundle is no foreign frame, though that
name is not what stands behind the last slash of its file. -/
theorem bundleTrace_not_unknown :
    ∃ f ∈ (folderLocator.locate bundleTrace).1.frames,
      (∀ name, folderLocator.runFile = some name → fileName f.raw.file ≠ name) ∧
      fileName f.raw.file ≠ entryFile ∧ folderLocator.origins = [] ∧
      f.kind = .script ∧ f.file = folderLocator.sourceId ∧ f.line = 7 := by
  have hframes : (folderLocator.locate bundleTrace).1.frames =
      [⟨"f", "/app.melker", 7, none, none, .script, ⟨some "f", "dist/bundle.js", 1, 1⟩⟩] := by
    decide +kernel
  have hlast : fileName "dist/bundle.js" = "bundle.js" := by decide +kernel
  rw [hframes]
  refine ⟨_, List.mem_singleton_self _, fun name hname => ?_, ?_, rfl, rfl, rfl, rfl⟩
  · obtain rfl : "dist/bundle.js" = name := Option.some.inj hname
    rw [hlast]
    decide
  · rw [hlast]
    decide

end Locator

end AppBundle
