import AppBundle.Bundle.Basic

/-!
# Where bundling failed

A failure of the toolchain is reported in generated code. If its message names a line of a generated
file, the failure is moved to the line of the app file that the generated line comes from. A failure
is shown with that line.
-/

namespace AppBundle

open AppBundle.Text

/-- A line of a generated file. -/
structure GeneratedPlace where
  /-- The file. -/
  file : String
  /-- The digits of the line. -/
  line : List Char

/-- The kinds of modules, as their files name them. -/
def moduleWords : List String := ["inline", "init", "ready"]

/-- The name of a generated file in front of a text without its ending, and the text behind it. -/
def generatedName? (cs : List Char) : Option (List Char × List Char) :=
  match after? "_melker_entry".toList cs with
  | some rest => some ("_melker_entry".toList, rest)
  | none =>
    moduleWords.findSome? fun word => do
      let mark := ("_" ++ word ++ "_").toList
      let rest ← after? mark cs
      let digits := rest.takeWhile isDecimal
      if digits.isEmpty then none
      return (mark ++ digits, rest.dropWhile isDecimal)

/-- A line of a generated file in front of a text. -/
def placeAt? (cs : List Char) : Option GeneratedPlace := do
  let (name, rest) ← generatedName? cs
  let rest ← after? ".ts:".toList rest
  let digits := rest.takeWhile isDecimal
  if digits.isEmpty then none
  return ⟨String.ofList name ++ ".ts", digits⟩

/-- The first line of a generated file that a text names. -/
def findPlace? : List Char → Option GeneratedPlace
  | [] => none
  | c :: rest => placeAt? (c :: rest) <|> findPlace? rest

/-- The line of the app file that a line of a generated file comes from. -/
def Generated.lineOf? (g : Generated) (p : GeneratedPlace) : Option Nat := do
  let line ← word32? p.line
  if p.file = entryFile then (g.lineTable.get? line).map (·.line)
  else (g.originOf? p.file).map (·.lineFor line)

/-- A failure with the line of the app file that its message points at, unless it has one. -/
def AssemblyError.locate (g : Generated) : AssemblyError → AssemblyError
  | .linkFailed message hint none =>
    .linkFailed message hint ((findPlace? message.toList).bind g.lineOf?)
  | e => e

/-- The lines that show a line of the app file. -/
def excerpt (content : String) (line : Nat) : String :=
  match if line = 0 then none else (stringLines content)[line - 1]? with
  | none => ""
  | some text =>
    let gutter := String.ofList (List.replicate (numeral line).length ' ') ++ " |\n"
    gutter ++ decimal line ++ " | " ++ trimmedEnd text ++ "\n" ++ gutter

/-- The text that is shown when an app cannot be bundled. -/
def AssemblyError.report (e : AssemblyError) (sourceId content : String) : String :=
  let place := match e.line? with
    | some line => "  --> " ++ sourceId ++ ":" ++ decimal line ++ "\n" ++ excerpt content line
    | none => ""
  let hint := match e.hint? with
    | some hint => "hint: " ++ hint ++ "\n"
    | none => ""
  "error: " ++ e.message ++ "\n" ++ place ++ hint

end AppBundle
