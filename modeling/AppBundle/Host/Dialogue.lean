import AppBundle.Host.Basic
import AppBundle.Text.Bytes
import AppBundle.Text.Search

/-!
# Talking to a running program

A program that runs beside this one writes lines. Those that begin with a mark are messages; all
others are output of the app and are passed on. Between messages the program is silent: it waits for
a line of input, or it has ended.

Every line the program writes is read once and in order. Reading up to the next message takes the
lines of the app in front of it and the message itself, and leaves the rest.
-/

namespace AppBundle

open AppBundle.Json

/-- What begins a message. -/
def messageMark : List Char :=
  '\x01' :: "melker ".toList

/-- What a program does until it waits for input or ends. -/
structure Emission where
  /-- What it writes. -/
  bytes : List UInt8
  /-- Its exit status, if it ends. -/
  status : Option Nat
  deriving Repr, DecidableEq

/-- A program that runs beside this one, with states of type `σ`. -/
structure Peer (σ : Type) where
  /-- Its path. -/
  path : String
  /-- Starts it with arguments. -/
  start : Disk → List String → StateM σ (Except DiskFault Emission)
  /-- Gives it a line of input. -/
  hear : String → StateM σ Emission

/-- The state of a conversation. -/
structure Dialogue (σ : Type) where
  /-- The state of the program. -/
  peer : σ
  /-- The lines that are written and not yet read; a line that is no text is none. -/
  lines : List (Option String)
  /-- What is written of a line that has not ended. -/
  tail : List UInt8
  /-- The exit status of the program, once it has ended. -/
  status : Option Nat
  /-- The lines of the app that were passed on. -/
  relayed : List String

/-! ## Lines of bytes -/

/-- The lines that line feeds end, and what follows the last line feed. -/
def cutLines : List UInt8 → List (List UInt8) × List UInt8
  | [] => ([], [])
  | b :: rest =>
    let (lines, tail) := cutLines rest
    if b = 10 then ([] :: lines, tail)
    else
      match lines with
      | [] => ([], b :: tail)
      | line :: more => ((b :: line) :: more, tail)

/-- The text of a line that a line feed ends; a carriage return before the line feed is no part of
it. -/
def lineText? (line : List UInt8) : Option String :=
  (Text.decode? line).map fun s =>
    if s.toList.getLast? = some '\r' then String.ofList s.toList.dropLast else s

/-! ## Messages -/

/-- Why no message can be read. -/
inductive Unheard where
  /-- A line is no text. -/
  | notText
  /-- A text behind the mark is no message. -/
  | garbled (text : String) (reason : Mismatch)
  /-- The program has ended. -/
  | ended (status : Nat)
  /-- The program waits for input. -/
  | silent

/-- The error that a host reports. -/
def Unheard.error : Unheard → HostFault
  | .notText => .io DiskFault.notText.message
  | .garbled text reason => .protocol ("bad message " ++ quoted text ++ ": " ++ reason.message)
  | .ended status => .protocol ("script host exited (exit status: " ++ decimal status ++ ")")
  | .silent => .protocol "script host does not reply"

/-- What reading up to the next message gives. -/
structure Heard where
  /-- The lines of the app in front of it. -/
  passed : List String
  /-- The message. -/
  message : Except Unheard HostSignal
  /-- The lines behind it. -/
  rest : List (Option String)

/-- What happens to a line. -/
inductive LineKind where
  /-- It is passed on. -/
  | app (line : String)
  /-- It is dropped. -/
  | dropped
  /-- It ends the reading. -/
  | answer (message : Except Unheard HostSignal)

/-- What happens to a line. Calls of the context are dropped. -/
def lineKind : Option String → LineKind
  | none => .answer (.error .notText)
  | some line =>
    match Text.after? messageMark line.toList with
    | none => .app line
    | some text =>
      match HostSignal.decoder.readText (String.ofList text) with
      | .ok (.context _ _) => .dropped
      | .ok message => .answer (.ok message)
      | .error reason => .answer (.error (.garbled (String.ofList text) reason))

/-- Reads up to the next message. Behind the last line there is none, and `atEnd` says why. -/
def hear (atEnd : Unheard) : List (Option String) → Heard
  | [] => ⟨[], .error atEnd, []⟩
  | line :: rest =>
    match lineKind line with
    | .app text =>
      let h := hear atEnd rest
      { h with passed := text :: h.passed }
    | .dropped => hear atEnd rest
    | .answer message => ⟨[], message, rest⟩

namespace Dialogue

variable {σ : Type}

/-- The conversation with a program that is not started. -/
def new (peer : σ) : Dialogue σ :=
  ⟨peer, [], [], none, []⟩

/-- The conversation with what the program does next. When a program ends, a line that it has begun
ends too. -/
def add (d : Dialogue σ) (e : Emission) : Dialogue σ :=
  let (lines, tail) := cutLines (d.tail ++ e.bytes)
  let ended := d.lines ++ lines.map lineText?
  match e.status with
  | none => { d with lines := ended, tail }
  | some _ =>
    let last := if tail.isEmpty then [] else [Text.decode? tail]
    { d with lines := ended ++ last, tail := [], status := e.status }

/-- Why there is no message behind the last line. -/
def atEnd (d : Dialogue σ) : Unheard :=
  match d.status with
  | some status => .ended status
  | none => .silent

/-- The next message. -/
def next : StateM (Dialogue σ) (Except Unheard HostSignal) := fun d =>
  let h := hear d.atEnd d.lines
  (h.message, { d with lines := h.rest, relayed := d.relayed ++ h.passed })

/-- Sends a command; a program that has ended does not take it. -/
def send (p : Peer σ) (c : Command) : StateM (Dialogue σ) (Except HostFault Unit) := fun d =>
  match d.status with
  | some _ => (.error (.io "Broken pipe (os error 32)"), d)
  | none =>
    let (e, s) := (p.hear c.line).run d.peer
    (.ok (), { d with peer := s }.add e)

/-- What was passed on. -/
def output (d : Dialogue σ) : String :=
  String.join (d.relayed.map (· ++ "\n"))

end Dialogue

end AppBundle
