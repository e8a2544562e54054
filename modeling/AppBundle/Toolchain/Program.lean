import AppBundle.Toolchain.Basic

/-!
# Toolchains that are programs

A program that is called to bundle: it tells its version, and it writes the code and the source map
into files of the folder it is given. What it writes as errors is the message of a failure, and
after a success the source of warnings.
-/

namespace AppBundle

open AppBundle.Text

/-- What a program leaves behind when it ends. -/
structure ProgramOutput where
  /-- Whether it ended well. -/
  success : Bool
  /-- What it wrote. -/
  output : List UInt8
  /-- What it wrote as errors. -/
  errors : List UInt8

/-- A program that bundles. Calling it may fail before it starts. -/
structure Program where
  /-- Its path. -/
  path : String
  /-- What it answers when asked for its version. -/
  version : Except DiskFault ProgramOutput
  /-- What it does when called with arguments. -/
  call : List String → StateM Disk (Except DiskFault ProgramOutput)

/-- The file of the code. -/
def bundleFile : String := "bundle.js"

/-- The file of the source map. -/
def mapFile : String := "bundle.js.map"

/-- The rest of a text behind a colour code. -/
def afterColour? : List Char → Option (List Char)
  | '\x1b' :: '[' :: rest =>
    match rest.dropWhile fun c => c.isDigit || c == ';' with
    | c :: behind => if c.isAlpha then some behind else none
    | [] => none
  | _ => none

/-- The text without its colour codes. Every step takes at least one character. -/
def dropColours : Nat → List Char → List Char
  | 0, cs => cs
  | _ + 1, [] => []
  | fuel + 1, c :: rest =>
    match afterColour? (c :: rest) with
    | some behind => dropColours fuel behind
    | none => c :: dropColours fuel rest

/-- What a program wrote, as text without colours. -/
def plainText (bytes : List UInt8) : List Char :=
  let cs := decodeLossy bytes
  dropColours cs.length cs

/-- Whether a line is a warning. -/
def isWarning (line : List Char) : Bool :=
  (after? "warning".toList (line.map Char.toLower)).isSome

/-- The warnings among the lines of a text. -/
def warningLines (cs : List Char) : List String :=
  (((lines cs).map trim).filter isWarning).map String.ofList

/-- The version that a program tells: its first line, if there is something on it. -/
def ProgramOutput.version? (o : ProgramOutput) : Option String :=
  if o.success then
    match (lines (decodeLossy o.output)).head? with
    | some line =>
      let version := trim line
      if version.isEmpty then none else some (String.ofList version)
    | none => none
  else none

/-- The arguments with which a program is called to bundle. -/
def LinkRequest.arguments (r : LinkRequest) : List String :=
  ["bundle", "--platform=deno", "--sourcemap=external", "--output",
      Path.text (r.folder ++ [bundleFile])]
    ++ (if r.minify then ["--minify"] else [])
    ++ [Path.text r.entry]

/-- What a program that ended well has made. -/
def readOutput (r : LinkRequest) (errors : List Char) :
    StateM Disk (Except AssemblyError LinkOutput) := do
  match ← attempt (Disk.readText (r.folder ++ [bundleFile])) with
  | .error f => return .error (.io f.message)
  | .ok code => do
    let map ← attempt (Disk.readText (r.folder ++ [mapFile]))
    return .ok ⟨code, map.toOption, warningLines errors⟩

namespace Program

/-- A request carried out by a program. -/
def bundle (p : Program) (r : LinkRequest) : StateM Disk (Except AssemblyError LinkOutput) := do
  match ← p.call r.arguments with
  | .error f =>
    return .error (.linkFailed ("failed to start `" ++ p.path ++ "`: " ++ f.message)
      (some installHint) none)
  | .ok o =>
    let errors := plainText o.errors
    if o.success then readOutput r errors
    else
      let message := String.ofList (trim errors)
      return .error (.linkFailed message (AppBundle.hint? message) none)

/-- A program as a toolchain. One that cannot be called or fails to tell its version is absent. -/
def toolchain (p : Program) : Toolchain where
  version := p.version.toOption.bind ProgramOutput.version?
  bundle := p.bundle

/-- A program that is not there. -/
def missing (path : String) : Program where
  path := path
  version := .error .notFound
  call _ := pure (.error .notFound)

end Program

end AppBundle
