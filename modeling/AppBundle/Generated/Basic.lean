import AppBundle.Diagnostic
import AppBundle.LineTable
import AppBundle.Text.Numeral

/-!
# Generated code

What is generated for an app: an entry module, one module for every script that is kept in the app
file or runs at a fixed moment, and where their lines come from.

The lines of a module repeat those of its script behind a few lines of header. The last line of the
header is continued by the first line of the script, so line `headerLines + k - 1` of the module
holds line `k` of the script.
-/

namespace AppBundle

/-- The file of the entry module. -/
def entryFile : String := "_melker_entry.ts"

/-- The global name under which the entry module publishes its members. -/
def registryName : String := "__melker"

/-- The function that awaits all scripts that run after loading. -/
def initName : String := "__melkerInit"

/-- The function that awaits all scripts that run after the app was first shown. -/
def readyName : String := "__melkerReady"

/-- A module generated for a script. -/
structure Module where
  /-- Its file. -/
  file : String
  /-- Its text. -/
  content : String
  /-- The line of the script in the app file. -/
  line : Nat
  /-- The script. -/
  owner : String
  deriving Repr, DecidableEq

/-- Where the lines of a module come from. -/
structure ModuleOrigin where
  /-- Its file. -/
  file : String
  /-- The line of the script in the app file. -/
  line : Nat
  /-- The number of lines before the script, the one it continues among them. -/
  headerSize : Nat
  deriving Repr, DecidableEq

/-- The line of the app file that a line of a module repeats. The sum stays within 32 bits, and
lines of the header stay at the lines above the script. -/
def ModuleOrigin.lineFor (m : ModuleOrigin) (moduleLine : Nat) : Nat :=
  min (m.line + moduleLine) Text.maxWord32 - m.headerSize

/-- All that is generated for an app. -/
structure Generated where
  /-- The text of the entry module. -/
  entry : String
  /-- The modules of the scripts. -/
  modules : List Module
  /-- Where the lines of the entry come from. -/
  lineTable : LineTable
  /-- Where the lines of the modules come from, in the order of the modules. -/
  origins : List ModuleOrigin
  /-- The text of the app file. -/
  content : String
  /-- The path or URL of the app file. -/
  sourceId : String
  /-- What there is to say about it. -/
  diagnostics : List Diagnostic

/-- The origin of the module in a file. -/
def Generated.originOf? (g : Generated) (file : String) : Option ModuleOrigin :=
  g.origins.find? (·.file = file)

end AppBundle
