import AppBundle.Cache.CachedBundle
import AppBundle.Disk
import AppBundle.Json.Printer
import AppBundle.Text.Search
import AppBundle.Timestamp

/-!
# The cache of bundles

Bundles are kept in the files of one folder. The name of a file is the digest of the path and the
text of an app file, so there is one file for every state of every app.

The cache never fails a build. Whatever is wrong with a file makes the bundle *missing*, and a
bundle that cannot be kept is only reported. A file is written under another name first and then
moved to its place, so no reader ever sees a part of it.
-/

namespace AppBundle

/-- The cache of bundles. -/
structure Cache where
  /-- Its folder. -/
  folder : Path
  /-- The number of the process that uses it. -/
  process : Nat
  deriving Repr, DecidableEq

/-- Why a bundle is missing. -/
inductive Miss where
  /-- There is no file. -/
  | absent
  /-- The file cannot be read. -/
  | unreadable (message : String)
  /-- The file holds no bundle. -/
  | corrupt (message : String)
  /-- The bundle was made of another text. -/
  | textChanged
  /-- The bundle was made by another toolchain. -/
  | versionChanged (cached current : String)
  deriving Repr, DecidableEq

/-- The answer of the cache. -/
inductive CacheAnswer where
  /-- The bundle that was asked for. -/
  | hit (entry : CachedBundle)
  /-- The bundle is missing. -/
  | miss (reason : Miss)

/-- What became of a bundle that was to be kept. -/
inductive SaveResult where
  /-- It is in a file. -/
  | saved (file : String)
  /-- It could not be kept. -/
  | failed (fault : DiskFault)
  deriving Repr, DecidableEq

/-- What is in the cache. -/
structure CacheSummary where
  /-- The number of files. -/
  count : Nat
  /-- The number of bytes in them. -/
  bytes : Nat
  /-- When the oldest bundle was made. -/
  oldest : Option Timestamp
  /-- When the newest bundle was made. -/
  newest : Option Timestamp
  deriving Repr, DecidableEq

/-- The digest of the text of an app file. -/
def contentDigest (content : String) : String :=
  sha256 content

/-- The digest of the path and the text of an app file. -/
def bundleKey (sourceId content : String) : String :=
  sha256 (sourceId ++ content)

/-- The file of a bundle. -/
def bundleName (sourceId content : String) : String :=
  bundleKey sourceId content ++ ".json"

/-- What is logged about an answer. -/
def CacheAnswer.warnings : CacheAnswer → List String
  | .miss (.corrupt message) => ["discarding corrupt cache entry: " ++ message]
  | _ => []

/-- What is logged about a bundle that was to be kept. -/
def SaveResult.warnings : SaveResult → List String
  | .failed fault => ["failed to write bundle cache: " ++ fault.message]
  | .saved _ => []

namespace Cache

/-- The path of a file of the cache. -/
def file (c : Cache) (name : String) : Path :=
  c.folder.child name

/-- The path of a bundle. -/
def bundlePath (c : Cache) (sourceId content : String) : Path :=
  c.file (bundleName sourceId content)

/-! ## Looking up -/

/-- The answer for a bundle that was read. -/
def validate (content version : String) (e : CachedBundle) : CacheAnswer :=
  if e.contentDigest ≠ contentDigest content then .miss .textChanged
  else if e.toolchainVersion ≠ version then .miss (.versionChanged e.toolchainVersion version)
  else .hit e

/-- Looks up the bundle of an app file that a toolchain of a version made. A file that holds no
bundle is taken away. -/
def find (c : Cache) (sourceId content version : String) : StateM Disk CacheAnswer := do
  let path := c.bundlePath sourceId content
  match ← attempt (Disk.readText path) with
  | .error .notFound => return .miss .absent
  | .error f => return .miss (.unreadable f.message)
  | .ok data =>
    match CachedBundle.decoder.readText data with
    | .ok e => return validate content version e
    | .error m => do
      let _ ← attempt (Disk.remove path)
      return .miss (.corrupt m.message)

/-! ## Storing -/

/-- The path under which a bundle is written first. -/
def draftPath (c : Cache) (sourceId content : String) : Path :=
  c.file (bundleName sourceId content ++ "." ++ decimal c.process ++ ".tmp")

/-- The text of a bundle in its file. -/
def bundleText (e : CachedBundle) : String :=
  e.toJson.compact

/-- A file moved to its place; if that fails, it is taken away. -/
def moveOrRemove (source target : Path) : OnDisk Unit := do
  match ← caught (Disk.rename source target) with
  | .ok () => return ()
  | .error f => do
    let _ ← caught (Disk.remove source)
    throw f

/-- Writes a bundle into its file. -/
def writeBundle (c : Cache) (sourceId content : String) (e : CachedBundle) : OnDisk Unit := do
  Disk.makeFolders c.folder
  Disk.writeText (c.draftPath sourceId content) (bundleText e)
  moveOrRemove (c.draftPath sourceId content) (c.bundlePath sourceId content)

/-- Keeps a bundle of an app file. -/
def save (c : Cache) (sourceId content : String) (e : CachedBundle) : StateM Disk SaveResult := do
  match ← attempt (c.writeBundle sourceId content e) with
  | .ok () => return .saved (bundleName sourceId content)
  | .error f => return .failed f

/-! ## Maintenance -/

/-- The ending of the files of the cache. -/
def jsonEnding : List Char := ['.', 'j', 's', 'o', 'n']

/-- Whether a name is that of a bundle: anything with the ending behind it. -/
def isBundleName (name : String) : Bool :=
  Text.endsIn jsonEnding name.toList && jsonEnding.length < name.length

/-- The files of the cache, in order. A folder that is not there has none. -/
def bundleFiles (c : Cache) : OnDisk (List Path) := do
  match ← caught (Disk.list c.folder) with
  | .ok names => return (names.filter isBundleName).map c.file
  | .error .notFound => return []
  | .error f => throw f

/-- When the bundle in a file was made, if that can be read. -/
def timestampIn (p : Path) : StateM Disk (Option Int) := do
  match ← attempt (Disk.readBytes p) with
  | .ok bytes => return CachedBundle.timestampOf? bytes
  | .error _ => return none

/-- Takes away the files that a test picks, and counts them. -/
def removeWhere (pick : Path → StateM Disk Bool) : List Path → OnDisk Nat
  | [] => return 0
  | p :: rest => do
    if ← pick p then
      Disk.remove p
      return (← removeWhere pick rest) + 1
    else removeWhere pick rest

/-- Takes away all bundles, and counts them. -/
def removeAll (c : Cache) : OnDisk Nat := do
  removeWhere (fun _ => pure true) (← c.bundleFiles)

/-- The point in time that lies a length of time in the past, within 64 bits. -/
def cutoff (now : Int) (age : Duration) : Int :=
  let age := min (age.millis : Int) Json.Number.maxSigned64
  max (now - age) Json.Number.minSigned64

/-- Whether the bundle in a file was made before a point in time, or nobody knows when. -/
def isStale (limit : Int) (p : Path) : StateM Disk Bool := do
  match ← timestampIn p with
  | some t => return t < limit
  | none => return true

/-- Takes away the bundles that are older than a length of time, and counts them. -/
def removeOlderThan (c : Cache) (now : Int) (age : Duration) : OnDisk Nat := do
  removeWhere (isStale (cutoff now age)) (← c.bundleFiles)

/-- Takes away the bundles that are older than the given number of seconds, and counts them. -/
def removeOlder (c : Cache) (now : Int) (seconds : Nat) : OnDisk Nat :=
  c.removeOlderThan now ⟨seconds, 0⟩

/-- The number of bytes that a folder takes. -/
def folderBytes : Nat := 4096

/-- The earlier of two points in time. -/
def earlier (a : Option Timestamp) (b : Timestamp) : Timestamp :=
  match a with
  | some a => if b.millis < a.millis then b else a
  | none => b

/-- The later of two points in time. -/
def later (a : Option Timestamp) (b : Timestamp) : Timestamp :=
  match a with
  | some a => if a.millis ≤ b.millis then b else a
  | none => b

/-- The statistics with one more file counted. -/
def count (s : CacheSummary) (p : Path) : OnDisk CacheSummary := do
  let size ← match ← Disk.look p with
    | some (.file bytes) => pure bytes.length
    | some .folder => pure folderBytes
    | none => throw .notFound
  let s := { s with count := s.count + 1, bytes := s.bytes + size }
  match (← timestampIn p).bind Timestamp.ofMillis? with
  | some t =>
    return { s with oldest := some (earlier s.oldest t), newest := some (later s.newest t) }
  | none => return s

/-- What is in the cache. -/
def summary (c : Cache) : OnDisk CacheSummary := do
  (← c.bundleFiles).foldlM count ⟨0, 0, none, none⟩

end Cache

end AppBundle
