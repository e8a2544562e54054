import AppBundle.Generated.Basic
import AppBundle.SourceMap.Basic
import AppBundle.Stack

/-!
# Locating the frames of stack traces

A stack trace taken while a bundle runs points into the bundle. Its frames are located at lines of
the app file.

* A frame in the module of a script or in the entry module is located by what is known of the lines
  of that module.
* A frame in the bundle is taken by the source map of the bundle to a place in one of those modules,
  and from there as above. Where the source map gives nothing, the line table of the entry is
  searched around the line.
* Any other frame is foreign and stays as it is.

The source map is decoded when the first frame needs it. Its mappings, or the fact that it has none,
are then kept until another source map takes its place, so a warning about it is raised only once.
-/

namespace AppBundle

/-- What the code of a frame is. -/
inductive CodeKind where
  /-- A script that is loaded with the app. -/
  | script
  /-- A handler. -/
  | handler
  /-- A script that runs after loading. -/
  | init
  /-- A script that runs after the app was first shown. -/
  | ready
  /-- Code of which nothing is known. -/
  | unknown
  deriving Repr, DecidableEq

/-- A frame with its place in the app file. -/
structure LocatedFrame where
  /-- The name to show. -/
  function : String
  /-- The file. -/
  file : String
  /-- The line. -/
  line : Nat
  /-- The column, if it is known. -/
  column : Option Nat
  /-- The text of the line, if it is known. -/
  lineText : Option String
  /-- What the code is. -/
  kind : CodeKind
  /-- The frame as it was. -/
  raw : StackFrame
  deriving Repr, DecidableEq

/-- Whether a located frame is in the app file. -/
def LocatedFrame.isInApp (f : LocatedFrame) : Bool :=
  f.kind ≠ .unknown

/-- A stack trace with its frames located. -/
structure LocatedTrace where
  /-- What the error says. -/
  message : String
  /-- The frames. -/
  frames : List LocatedFrame
  deriving Repr, DecidableEq

/-! ## Names -/

/-- Whether a path or URL is a file of the given name: the name itself, or the name behind a slash
of either kind. -/
def namesFile (path name : String) : Bool :=
  path = name || match Text.before? name.toList path.toList with
    | some front => front.getLast? = some '/' || front.getLast? = some '\\'
    | none => false

/-- The part of a name behind its last point. -/
def lastPart (name : String) : List Char :=
  ((Text.split '.' name.toList).getLast?).getD []

/-- Whether a text is a number behind a given beginning. -/
def isNumbered (beginning : String) (cs : List Char) : Bool :=
  match Text.after? beginning.toList cs with
  | some digits => !digits.isEmpty && digits.all Text.isDecimal
  | none => false

/-- What the name of a function or of its script or handler tells about its code. -/
def CodeKind.ofName? (name : String) : Option CodeKind :=
  let part := lastPart name
  if isNumbered "__h" part || isNumbered "__handler" part || isNumbered "__handler_" part then
    some .handler
  else if part = initName.toList || isNumbered "__init_" part then some .init
  else if part = readyName.toList || isNumbered "__ready_" part then some .ready
  else none

/-- What the file of a module tells about its code. -/
def CodeKind.ofModule? (file : String) : Option CodeKind :=
  if beginsWith "_init_" file then some .init
  else if beginsWith "_ready_" file then some .ready
  else if beginsWith "_inline_" file then some .script
  else none

/-- The name to show for a function without one. -/
def anonymousName : String := "<anonymous>"

/-- The name to show for a function: generated names are replaced by what they stand for. -/
def shownName (name : Option String) (kind : CodeKind) : String :=
  let known := match name with
    | some n => CodeKind.ofName? n
    | none => some kind
  match known with
  | some .handler => "event handler"
  | some .init => "async init"
  | some .ready => "async ready"
  | _ => name.getD anonymousName

/-! ## Locators -/

/-- What is known about a bundle for locating the frames of its stack traces. -/
structure Locator where
  /-- The path or URL of the app file. -/
  sourceId : String
  /-- The file of the bundle. -/
  runFile : Option String
  /-- The text of the app file. -/
  content : Option String
  /-- Where the lines of the entry come from. -/
  lineTable : LineTable
  /-- Where the lines of the modules come from. -/
  origins : List ModuleOrigin
  /-- The source map of the bundle. -/
  sourceMap : Option SourceMap
  /-- The mappings, or none if there are none to use, once a frame needed them. -/
  decoded : Option (Option Mappings)

/-- How far around a line the line table is searched. -/
def searchRadius : Nat := 5

/-- A place in the app file. -/
structure AppPlace where
  /-- The line. -/
  line : Nat
  /-- The column, if it is known. -/
  column : Option Nat
  /-- What the place tells about its code. -/
  kind : Option CodeKind

namespace Locator

/-- The origin of the module that a path or URL names. -/
def originOf? (t : Locator) (path : String) : Option ModuleOrigin :=
  t.origins.find? fun m => namesFile path m.file

/-- Whether a path or URL names the bundle. -/
def namesBundle (t : Locator) (path : String) : Bool :=
  match t.runFile with
  | some name => namesFile path name
  | none => false

/-- A line of a module resolved. -/
def ofModule (m : ModuleOrigin) (line : Nat) (column : Option Nat) : AppPlace :=
  ⟨m.lineFor line, column, CodeKind.ofModule? m.file⟩

/-- The origin of a line of the entry resolved. -/
def ofOrigin (o : LineOrigin) : AppPlace :=
  ⟨o.line, none, CodeKind.ofName? o.owner⟩

/-- A line resolved by the line table, searched around the line. -/
def nearLine? (t : Locator) (line : Nat) : Option AppPlace :=
  (t.lineTable.near? line searchRadius).map (ofOrigin ·.2)

/-- A frame in the bundle resolved by mappings. -/
def byMappings? (t : Locator) (m : Mappings) (raw : StackFrame) : Option AppPlace := do
  let map ← t.sourceMap
  let place ← m.placeOf? raw.line (some (raw.column - 1))
  let source ← map.source? place.source
  match t.originOf? source with
  | some origin => return ofModule origin place.line (some place.column)
  | none =>
    if namesFile source entryFile then (t.lineTable.get? place.line).map ofOrigin else none

/-- Whether a frame can only be resolved by mappings: it is in the bundle and not in a module. -/
def needsMappings (t : Locator) (raw : StackFrame) : Bool :=
  (t.originOf? raw.file).isNone && !namesFile raw.file entryFile && t.namesBundle raw.file

/-- A frame resolved, given the mappings of the bundle. -/
def resolve? (t : Locator) (m : Option Mappings) (raw : StackFrame) : Option AppPlace :=
  match t.originOf? raw.file with
  | some origin => some (ofModule origin raw.line none)
  | none =>
    if namesFile raw.file entryFile then t.nearLine? raw.line
    else if t.namesBundle raw.file then (m.bind (t.byMappings? · raw)) <|> t.nearLine? raw.line
    else none

/-- The text of a line of the app file, without the blanks at its end. -/
def lineText? (t : Locator) (line : Nat) : Option String := do
  let content ← t.content
  if line = 0 then none
  let text ← (stringLines content)[line - 1]?
  return trimmedEnd text

/-- A frame that stays as it is. -/
def foreign (raw : StackFrame) : LocatedFrame where
  function := raw.function.getD anonymousName
  file := raw.file
  line := raw.line
  column := some raw.column
  lineText := none
  kind := .unknown
  raw := raw

/-- A frame located, given the mappings of the bundle. -/
def frameWith (t : Locator) (m : Option Mappings) (raw : StackFrame) : LocatedFrame :=
  match t.resolve? m raw with
  | none => foreign raw
  | some r =>
    let kind := ((raw.function.bind CodeKind.ofName?) <|> r.kind).getD .script
    { function := shownName raw.function kind
      file := t.sourceId
      line := r.line
      column := r.column
      lineText := t.lineText? r.line
      kind := kind
      raw := raw }

/-- Another source map in place of the present one. -/
def withMap (t : Locator) (map : Option SourceMap) : Locator :=
  { t with sourceMap := map, decoded := none }

/-- The mappings of the source map, and what is logged about it when it has none to use. -/
def readMappings (t : Locator) : Option Mappings × List String :=
  match t.sourceMap with
  | none => (none, [])
  | some map =>
    match map.toMappings with
    | .ok m => (some m, [])
    | .error f => (none, ["sourcemap could not be decoded: " ++ f.message])

/-- A frame located, with the locator behind it and what is logged. -/
def frame (t : Locator) (raw : StackFrame) : LocatedFrame × Locator × List String :=
  if t.needsMappings raw then
    match t.decoded with
    | some m => (t.frameWith m raw, t, [])
    | none =>
      let (m, logs) := t.readMappings
      (t.frameWith m raw, { t with decoded := some m }, logs)
  else (t.frameWith none raw, t, [])

/-- Frames located one after the other. -/
def locateFrames (t : Locator) : List StackFrame →
    List LocatedFrame × Locator × List String
  | [] => ([], t, [])
  | raw :: rest =>
    let (f, t, logs) := t.frame raw
    let (fs, t, more) := t.locateFrames rest
    (f :: fs, t, logs ++ more)

/-- A stack trace with its frames located, the locator behind it, and what is logged. -/
def locate (t : Locator) (raw : String) : LocatedTrace × Locator × List String :=
  let trace := StackTrace.parse raw
  let (frames, t, logs) := t.locateFrames trace.frames
  (⟨trace.message, frames⟩, t, logs)

/-- Where a handler or script is defined, in words. -/
def location? (t : Locator) (owner : String) : Option String :=
  (t.lineTable.findOwner? owner).map fun (_, o) =>
    "defined at " ++ t.sourceId ++ ":" ++ decimal o.line

end Locator

end AppBundle
