import AppBundle.Bundle.Basic
import AppBundle.Text.Numeral

/-!
# The arguments of the command line

Arguments are read from left to right, and the first that is at fault is reported. A later task or
value takes the place of an earlier one. Everything behind a double dash is left to the app, and
only an app that is run can take it.
-/

namespace AppBundle

/-- What the program is to do. -/
inductive Task where
  /-- Make a bundle. -/
  | bundle
  /-- Tell what is in the cache. -/
  | summarize
  /-- Empty the cache. -/
  | empty
  /-- Remove the bundles from the cache that are older than a number of seconds. -/
  | dropOlder (seconds : Nat)
  deriving Repr, DecidableEq

/-- What the arguments ask for. -/
structure Arguments where
  /-- The task. -/
  task : Task
  /-- How bundles are made. -/
  options : AssemblyOptions
  /-- The file that takes the bundle in place of the output. -/
  target : Option String
  /-- Whether the app is run. -/
  run : Bool
  /-- The arguments of the app. -/
  forApp : List String
  deriving Repr, DecidableEq

/-- Why arguments are refused. -/
inductive ArgumentError where
  /-- An option without its value. -/
  | missingValue (name : String)
  /-- A value that is no number of seconds. -/
  | seconds (value : String) (reason : Text.NumeralError)
  /-- An unknown argument. -/
  | unknown (argument : String)
  /-- Arguments for an app that is not run. -/
  | notRun
  deriving Repr, DecidableEq

/-- What is to be done: explain the arguments or work. -/
inductive Invocation where
  /-- Explain the arguments. -/
  | help
  /-- Work. -/
  | work (arguments : Arguments)
  deriving Repr, DecidableEq

/-- The explanation of the arguments. -/
def usage : String :=
  "usage: melker-bundler [--no-cache] [--minify] [--debug] [--cache-dir <path>] [--out <path>] [--run [-- <args>...]]\n"
    ++ "       melker-bundler --cache-stats | --clear-cache | --clear-cache-older-than <secs> [--cache-dir <path>]"

/-- The wording of an error. -/
def ArgumentError.message : ArgumentError → String
  | .missingValue name => "missing value for " ++ name
  | .seconds value reason => "invalid number of seconds '" ++ value ++ "': " ++ reason.message
  | .unknown argument => "unknown argument '" ++ argument ++ "'. " ++ usage
  | .notRun => "app arguments after `--` require --run"

namespace Arguments

/-- What is asked for without arguments: a bundle, taken from the cache if it is there. -/
def bare : Arguments where
  task := .bundle
  options := ⟨false, true, false, none⟩
  target := none
  run := false
  forApp := []

/-- What an argument without a value asks for. -/
def flag? (argument : String) (a : Arguments) : Option Arguments :=
  match argument with
  | "--no-cache" => some { a with options := { a.options with caching := false } }
  | "--minify" => some { a with options := { a.options with minify := true } }
  | "--debug" => some { a with options := { a.options with debug := true } }
  | "--run" => some { a with run := true }
  | "--cache-stats" => some { a with task := .summarize }
  | "--clear-cache" => some { a with task := .empty }
  | _ => none

/-- Whether an argument takes a value. -/
def takesValue (argument : String) : Bool :=
  ["--cache-dir", "--out", "--clear-cache-older-than"].contains argument

/-- What an argument with a value asks for. -/
def withValue (argument value : String) (a : Arguments) : Except ArgumentError Arguments :=
  match argument with
  | "--cache-dir" => .ok { a with options := { a.options with cacheFolder := some value } }
  | "--out" => .ok { a with target := some value }
  | "--clear-cache-older-than" =>
    match Text.readNumeral Text.maxWord64 value.toList with
    | .ok seconds => .ok { a with task := .dropOlder seconds }
    | .error reason => .error (.seconds value reason)
  | _ => .error (.unknown argument)

/-- What is asked for in the end. -/
def finish (a : Arguments) : Except ArgumentError Invocation :=
  if !a.forApp.isEmpty && !a.run then .error .notRun else .ok (.work a)

/-- Reads arguments behind those already read. -/
def readFrom (a : Arguments) : List String → Except ArgumentError Invocation
  | [] => a.finish
  | argument :: rest =>
    match a.flag? argument with
    | some a => readFrom a rest
    | none =>
      if takesValue argument then
        match rest with
        | [] => .error (.missingValue argument)
        | value :: rest =>
          match a.withValue argument value with
          | .ok a => readFrom a rest
          | .error e => .error e
      else if argument = "--" then finish { a with forApp := rest }
      else if argument = "-h" ∨ argument = "--help" then .ok .help
      else .error (.unknown argument)

end Arguments

/-- Reads arguments. -/
def Invocation.read (arguments : List String) : Except ArgumentError Invocation :=
  Arguments.bare.readFrom arguments

end AppBundle
