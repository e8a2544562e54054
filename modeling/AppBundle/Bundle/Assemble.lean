import AppBundle.Bundle.Failure
import AppBundle.Cache.Basic
import AppBundle.Generated.Entry
import AppBundle.Import.Dependency
import AppBundle.Template.Check
import AppBundle.Toolchain.Basic
import AppBundle.World

/-!
# Assembling bundles

How the bundle of an app is made.

1. If the cache is used and holds the right bundle, that is the one.
2. If a script needs another module and there is no toolchain, there is no bundle.
3. Code is generated into a scratch folder.
4. The toolchain links it; without a toolchain the code runs as it was generated.
5. The calls of handlers are put into the template.
6. The bundle is kept in the cache.

The scratch folder is taken away on every path but two: an app that is not linked holds on to it,
and a linked one leaves it for inspection if that was asked for.
-/

namespace AppBundle

/-- What a run of the bundler gives. -/
structure BundleRun where
  /-- The bundle, or why there is none. -/
  result : Except AssemblyError Assembled
  /-- What the toolchain was asked, if it was. -/
  request : Option LinkRequest
  /-- What is logged. -/
  logs : List String

/-- The cache of a run, if it uses one. -/
def AssemblyOptions.cache (o : AssemblyOptions) (w : World) : Option Cache :=
  if o.caching then
    some ⟨Path.ofText (o.cacheFolder.getD w.environment.bundleFolder), w.process⟩
  else none

/-- A cached bundle of an app. -/
def App.recalled (a : App) (e : CachedBundle) : Assembled where
  bundle := {
    template := e.template
    code := e.code
    lineTable := e.lineTable
    sourceMap := e.sourceMap
    origins := e.origins
    content := a.content
    sourceId := a.sourceId }
  artifacts := none
  metadata := ⟨some e.toolchainVersion, true, [], [], none, none⟩

/-- A bundle as it is kept in the cache. -/
def Bundle.toCached (b : Bundle) (version : String) (now : Int) : CachedBundle where
  contentDigest := contentDigest b.content
  code := b.code
  lineTable := b.lineTable
  template := b.template
  toolchainVersion := version
  timestamp := now
  sourceMap := b.sourceMap
  origins := b.origins

/-- The files of generated code with their texts: the modules and then the entry. -/
def Generated.files (g : Generated) : List (String × String) :=
  g.modules.map (fun m => (m.file, m.content)) ++ [(entryFile, g.entry)]

/-- Writes generated code into a folder. -/
def Generated.writeTo (g : Generated) (folder : Path) : OnDisk Unit :=
  g.files.forM fun (file, text) => Disk.writeText (folder ++ [file]) text

/-- The source map that a toolchain made, what there is to say about it, and what is logged. -/
def readMap (text : Option String) : Option SourceMap × List Diagnostic × List String :=
  match text with
  | none => (none, [.warning "bundler produced no sourcemap"], [])
  | some text =>
    match SourceMap.decoder.readText text with
    | .ok map => (some map, [], [])
    | .error m =>
      (none, [.warning ("sourcemap could not be parsed: " ++ m.message)],
        ["ignoring unparsable sourcemap: " ++ m.message])

/-- The code of a bundle, linked or not. -/
structure Linked where
  /-- The code. -/
  code : String
  /-- Its source map. -/
  sourceMap : Option SourceMap
  /-- Whether it imports the generated modules. -/
  needsModules : Bool
  /-- What there is to say about it. -/
  diagnostics : List Diagnostic
  /-- What is logged. -/
  logs : List String

/-- What there is to say about code that is not linked. -/
def unlinkedInfo : Diagnostic :=
  .info "No bundling toolchain available; running the generated modules unbundled"

/-- The generated code in a folder linked by a toolchain, if there is one, and what the toolchain
was asked. -/
def Toolchain.link (t : Toolchain) (g : Generated) (folder : Path) (minify : Bool) :
    StateM Disk (Except AssemblyError Linked × Option LinkRequest) := do
  match ← attempt (g.writeTo folder) with
  | .error f => return (.error (.io f.message), none)
  | .ok () =>
    match t.version with
    | none => return (.ok ⟨g.entry, none, true, [unlinkedInfo], []⟩, none)
    | some _ => do
      let request : LinkRequest := ⟨folder, minify⟩
      match ← t.bundle request with
      | .error e => return (.error (e.locate g), some request)
      | .ok o =>
        let (map, diagnostics, logs) := readMap o.sourceMap
        let linked := ⟨o.code, map, false, o.warnings.map .warning ++ diagnostics, logs⟩
        return (.ok linked, some request)

/-- Keeps a bundle in the cache of a run, if it uses one and the bundle is linked. -/
def keep (cache : Option Cache) (version : Option String) (linked : Bool) (b : Bundle) :
    InWorld (List Diagnostic × List String) := do
  match cache, version with
  | some cache, some version =>
    if linked then
      let entry := b.toCached version (← get).now
      let outcome ← World.onDisk (cache.save b.sourceId b.content entry)
      let diagnostics := match outcome with
        | .failed f => [.warning ("Bundle cache not written: " ++ f.message)]
        | .saved _ => []
      return (diagnostics, outcome.warnings)
    else return ([], [])
  | _, _ => return ([], [])

/-- Makes the bundle of an app in a scratch folder. -/
def App.assembleIn (a : App) (o : AssemblyOptions) (t : Toolchain) (cache : Option Cache)
    (scratch : Path) : InWorld BundleRun := do
  let g := a.generated
  let (linked, request) ← World.onDisk (t.link g scratch o.minify)
  match linked with
  | .error e => do
    World.dropScratch scratch
    return ⟨.error e, request, []⟩
  | .ok l => do
    let splicing := spliceHandlers a.template a.handlers
    let bundle : Bundle := {
      template := splicing.text
      code := l.code
      lineTable := g.lineTable
      sourceMap := l.sourceMap
      origins := g.origins
      content := a.content
      sourceId := a.sourceId }
    let (kept, keptLogs) ← keep cache t.version (!l.needsModules) bundle
    -- the folder stays where code imports its modules, and where it is to be inspected
    let forInspection := o.debug && !l.needsModules
    if !l.needsModules && !forInspection then World.dropScratch scratch
    let metadata : Metadata := {
      toolchainVersion := t.version
      cached := false
      modules := g.modules.map (·.file)
      diagnostics :=
        g.diagnostics ++ l.diagnostics ++ checkHandlers splicing.text a.handlers ++ kept
      entry := if o.debug then some g.entry else none
      folder := if forInspection then some scratch else none }
    return ⟨.ok ⟨bundle, if l.needsModules then some scratch else none, metadata⟩, request,
      l.logs ++ splicing.warnings ++ keptLogs⟩

/-- Makes the bundle of an app anew. -/
def App.assembleAnew (a : App) (o : AssemblyOptions) (t : Toolchain) (cache : Option Cache) :
    InWorld BundleRun := do
  match a.dependency?, t.version with
  | some site, none =>
    return ⟨.error (.noToolchain a.sourceId site.line site.specifier), none, []⟩
  | _, _ =>
    match ← World.makeScratch with
    | .error f => return ⟨.error (.io f.message), none, []⟩
    | .ok scratch => a.assembleIn o t cache scratch

/-- Makes the bundle of an app, or takes it from the cache. -/
def App.assemble (a : App) (o : AssemblyOptions) (t : Toolchain) : InWorld BundleRun := do
  let cache := o.cache (← get)
  match cache, t.version with
  | some c, some version => do
    let answer ← World.onDisk (c.find a.sourceId a.content version)
    match answer with
    | .hit entry => return ⟨.ok (a.recalled entry), none, answer.warnings⟩
    | .miss _ => do
      let run ← a.assembleAnew o t cache
      return { run with logs := answer.warnings ++ run.logs }
  | _, _ => a.assembleAnew o t cache

/-- Lets go of the modules that a bundle holds on to. -/
def Assembled.release (a : Assembled) : InWorld Unit :=
  match a.artifacts with
  | some folder => World.dropScratch folder
  | none => pure ()

end AppBundle
