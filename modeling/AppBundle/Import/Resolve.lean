import AppBundle.Import.Scan
import AppBundle.Reference

/-!
# Resolving imports

Code that moves elsewhere keeps its imports only if they name their modules in full, so every
relative specifier is resolved against the app file. Everything else in the code stays.
-/

namespace AppBundle.Import

/-- Whether a specifier depends on where the code is: it begins with a slash, or with one or two
points and a slash. -/
def isRelative (specifier : String) : Bool :=
  beginsWith "./" specifier || beginsWith "../" specifier || beginsWith "/" specifier

/-- The text of a chunk whose specifier, if it is relative, is resolved. -/
def Chunk.resolved (sourceId : String) : Chunk → List Char
  | .plain c => [c]
  | .specifier cs =>
    let specifier := String.ofList cs
    if isRelative specifier then (absoluteReference sourceId specifier).toList else cs

/-- The code with every relative import resolved against an app file. -/
def resolveAll (sourceId code : String) : String :=
  String.ofList ((chunks code.toList).flatMap (Chunk.resolved sourceId))

end AppBundle.Import
