import AppBundle.Text.Bytes
import AppBundle.Text.Lines

/-!
# Files and folders

A disk knows for some places what stands there, a file or a folder. The root is always a folder. A
path leads to a place part by part: a name leads to what has it in the folder, two points lead to
the folder above, and a point or nothing leads nowhere else. Every part has to be looked up in a
folder, so a path through a file or through nothing is at fault before its last part is looked at.

Every operation leaves all places alone that it does not name; what it leaves behind when it fails
is part of its meaning.
-/

namespace AppBundle

/-- A path from the root as it is written: the parts between its slashes. -/
abbrev Path := List String

/-- A place on a disk: the names of the folders above it and its own. -/
abbrev Place := List String

namespace Path

/-- The path that a text names, taken from the root. -/
def ofText (s : String) : Path :=
  match (Text.split '/' s.toList).map String.ofList with
  | "" :: parts => parts
  | parts => parts

/-- The text of a path. -/
def text (p : Path) : String :=
  "/" ++ String.intercalate "/" p

/-- Whether a part leads nowhere else. -/
def isIdle (part : String) : Bool :=
  part = "" || part = "."

/-- The path of a name in a folder. -/
def child (folder : Path) (name : String) : Path :=
  (if folder.getLast? = some "" then folder.dropLast else folder) ++ [name]

/-- The path without the slashes at its end. -/
def unclosed (p : Path) : Path :=
  (p.reverse.dropWhile (· = "")).reverse

/-- How many bytes a name may have. -/
def nameLimit : Nat := 255

/-- How many bytes a path has to stay below. -/
def limit : Nat := 4096

end Path

/-- What stands at a place. -/
inductive Item where
  /-- A file with its bytes. -/
  | file (bytes : List UInt8)
  /-- A folder. -/
  | folder
  deriving Repr, DecidableEq

/-- Why an operation on a disk fails. -/
inductive DiskFault where
  /-- Nothing stands at the path or where it leads through. -/
  | notFound
  /-- A file stands where a folder has to be. -/
  | notFolder
  /-- A folder stands where a file has to be. -/
  | isFolder
  /-- Something stands at the path already. -/
  | exists
  /-- A name or the path is too long. -/
  | tooLong
  /-- The bytes of a file are no text. -/
  | notText
  deriving Repr, DecidableEq

/-- The wording of a fault. -/
def DiskFault.message : DiskFault → String
  | .notFound => "No such file or directory (os error 2)"
  | .notFolder => "Not a directory (os error 20)"
  | .isFolder => "Is a directory (os error 21)"
  | .exists => "File exists (os error 17)"
  | .tooLong => "File name too long (os error 36)"
  | .notText => "stream did not contain valid UTF-8"

/-- A disk. -/
structure Disk where
  /-- What stands where; of several items at one place the first counts. -/
  items : List (Place × Item)

/-- An operation on a disk. What it did before a fault stays done. -/
abbrev OnDisk := ExceptT DiskFault (StateM Disk)

/-- An operation whose fault is handled and not passed on. -/
def attempt {α : Type} (op : OnDisk α) : StateM Disk (Except DiskFault α) :=
  op.run

/-- The fault of an operation as a value within a longer operation. -/
def caught {α : Type} (op : OnDisk α) : OnDisk (Except DiskFault α) :=
  ExceptT.lift op.run

namespace Disk

/-- A disk on which nothing stands but the root. -/
def empty : Disk := ⟨[]⟩

/-- What stands at a place. -/
def get? (d : Disk) (p : Place) : Option Item :=
  if p = [] then some .folder else (d.items.find? (·.1 = p)).map (·.2)

/-- The disk with an item at a place. -/
def put (d : Disk) (p : Place) (i : Item) : Disk :=
  ⟨(p, i) :: d.items.filter (·.1 ≠ p)⟩

/-- The disk with nothing at a place. -/
def drop (d : Disk) (p : Place) : Disk :=
  ⟨d.items.filter (·.1 ≠ p)⟩

/-- The place to which a path leads from another place. Nothing needs to stand at the last one. -/
def placeFrom (d : Disk) (here : Place) : Path → Except DiskFault Place
  | [] => .ok here
  | part :: rest =>
    match d.get? here with
    | none => .error .notFound
    | some (.file _) => .error .notFolder
    | some .folder =>
      if Path.isIdle part then placeFrom d here rest
      else if part = ".." then placeFrom d here.dropLast rest
      else if part.utf8ByteSize > Path.nameLimit then .error .tooLong
      else placeFrom d (here ++ [part]) rest

/-- The place to which a path leads. -/
def place (d : Disk) (p : Path) : Except DiskFault Place :=
  if p.text.utf8ByteSize ≥ Path.limit then .error .tooLong else d.placeFrom [] p

/-- The names in the folder at a place. -/
def names (d : Disk) (p : Place) : List String :=
  d.items.filterMap fun (q, _) =>
    match q.getLast? with
    | some name => if q.dropLast = p then some name else none
    | none => none

/-! ## Operations -/

/-- The place to which a path leads. -/
def locate (p : Path) : OnDisk Place := do
  match (← get).place p with
  | .ok q => return q
  | .error f => throw f

/-- What stands at a path. -/
def look (p : Path) : OnDisk (Option Item) := do
  let q ← locate p
  return (← get).get? q

/-- The bytes of a file. -/
def readBytes (p : Path) : OnDisk (List UInt8) := do
  match ← look p with
  | none => throw .notFound
  | some .folder => throw .isFolder
  | some (.file bytes) => return bytes

/-- The text of a file. -/
def readText (p : Path) : OnDisk String := do
  match Text.decode? (← readBytes p) with
  | some s => return s
  | none => throw .notText

/-- An empty file at a path, in place of the one that stands there. A path that ends in a slash
names no file. -/
def create (p : Path) : OnDisk Unit := do
  if p.getLast? = some "" then
    let _ ← locate ((Path.unclosed p).dropLast ++ [""])
    throw .isFolder
  let q ← locate p
  match (← get).get? q with
  | some .folder => throw .isFolder
  | _ => modify (·.put q (.file []))

/-- More bytes at the end of a file. -/
def append (p : Path) (bytes : List UInt8) : OnDisk Unit := do
  let q ← locate p
  match (← get).get? q with
  | some (.file old) => modify (·.put q (.file (old ++ bytes)))
  | some .folder => throw .isFolder
  | none => throw .notFound

/-- A file with the given bytes, in place of the one that stands there. -/
def write (p : Path) (bytes : List UInt8) : OnDisk Unit := do
  create p
  append p bytes

/-- A file with the given text, in place of the one that stands there. -/
def writeText (p : Path) (s : String) : OnDisk Unit :=
  write p (Text.encode s.toList)

/-- A file taken away. -/
def remove (p : Path) : OnDisk Unit := do
  let q ← locate p
  match (← get).get? q with
  | none => throw .notFound
  | some .folder => throw .isFolder
  | some (.file _) => modify (·.drop q)

/-- A file moved to another path, in place of the file that stands there. -/
def rename (source target : Path) : OnDisk Unit := do
  let bytes ← readBytes source
  let old ← locate source
  let q ← locate target
  match (← get).get? q with
  | some .folder => throw .isFolder
  | _ => modify fun d => (d.drop old).put q (.file bytes)

/-- A folder at a path where nothing stands yet. -/
def makeFolder (p : Path) : OnDisk Unit := do
  let q ← locate (Path.unclosed p)
  match (← get).get? q with
  | some _ => throw .exists
  | none => modify (·.put q .folder)

/-- A folder at a path, if there is none yet. -/
def ensureFolder (p : Path) : OnDisk Unit := do
  match ← caught (makeFolder p) with
  | .ok () => return ()
  | .error f =>
    match ← caught (look p) with
    | .ok (some .folder) => return ()
    | _ => throw f

/-- A folder at a path whose parts are given last one first, with the folders above it that are not
there yet. -/
def ensureFolders : List String → OnDisk Unit
  | [] => pure ()
  | name :: above => do
    let p := (name :: above).reverse
    match ← caught (ensureFolder p) with
    | .ok () => return ()
    | .error .notFound =>
      ensureFolders above
      ensureFolder p
    | .error f => throw f

/-- A folder at a path with the folders above it that are not there yet. Only the folders above its
last name are made first, so a point behind that name finds no folder to stand for. -/
def makeFolders (p : Path) : OnDisk Unit := do
  match ← caught (ensureFolder p) with
  | .ok () => return ()
  | .error .notFound =>
    ensureFolders (p.filter (!Path.isIdle ·)).dropLast.reverse
    ensureFolder p
  | .error f => throw f

/-- The names in a folder, in order. -/
def list (p : Path) : OnDisk (List String) := do
  let q ← locate p
  match (← get).get? q with
  | none => throw .notFound
  | some (.file _) => throw .notFolder
  | some .folder => return ((← get).names q).mergeSort

/-- A folder with everything in it taken away. -/
def dropTree (d : Disk) (p : Place) : Disk :=
  ⟨d.items.filter fun (q, _) => !p.isPrefixOf q⟩

end Disk

end AppBundle
