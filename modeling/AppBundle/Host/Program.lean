import AppBundle.Host.Dialogue
import AppBundle.Host.Script
import AppBundle.Url.FilePath

/-!
# Hosts that are programs

A program that is started with a script, the URL of the payload, and the context of the app. It
answers first whether the payload is loaded and then every command.
-/

namespace AppBundle

variable {σ : Type}

/-- What the app may do if nothing else is asked for: everything. -/
def allPermissions : List String := ["--allow-all"]

/-- The arguments with which a program is started on a payload. -/
def hostArguments (permissions : List String) (payload : Path) (context : Context) : List String :=
  ["run", "--quiet"] ++ permissions ++ [
    Path.text (payload.dropLast ++ [hostFile]),
    String.ofList (Url.ofPath (Path.text payload).toList).text,
    context.toJson.compact]

/-- The error of an answer that does not fit. -/
def unexpected (m : HostSignal) : HostFault :=
  .protocol ("unexpected reply " ++ m.description)

/-- The answer to loading a payload. -/
def loadAnswer : Except Unheard HostSignal → Except HostFault (Option Registry)
  | .ok (.loaded registry) => .ok (some registry)
  | .ok .malformed => .ok none
  | .ok (.failed failure) => .error (.script failure)
  | .ok m => .error (unexpected m)
  | .error u => .error u.error

/-- The answer to a call. -/
def invokeAnswer : Except Unheard HostSignal → Except HostFault Unit
  | .ok .done => .ok ()
  | .ok (.failed failure) => .error (.script failure)
  | .ok m => .error (unexpected m)
  | .error u => .error u.error

namespace Peer

/-- Loads a payload into the program. -/
def load (p : Peer σ) (permissions : List String) (disk : Disk) (payload : Path)
    (context : Context) : StateM (Dialogue σ) (Except HostFault (Option Registry)) := fun d =>
  match (p.start disk (hostArguments permissions payload context)).run d.peer with
  | (.error f, s) =>
    (.error (.unavailable (p.path ++ ": " ++ f.message)), { d with peer := s })
  | (.ok e, s) =>
    let (answer, d) := Dialogue.next ({ d with peer := s }.add e)
    (loadAnswer answer, d)

/-- Calls a member. -/
def invoke (p : Peer σ) (member : String) (event : Option Json.Value) :
    StateM (Dialogue σ) (Except HostFault Unit) := do
  match ← Dialogue.send p (.invoke member event) with
  | .error e => return .error e
  | .ok () => return invokeAnswer (← Dialogue.next)

/-- Ends the program; it may have ended before. -/
def close (p : Peer σ) : StateM (Dialogue σ) (Except HostFault Unit) := do
  let _ ← Dialogue.send p .close
  return .ok ()

/-- A program as a host. -/
def host (p : Peer σ) (permissions : List String) : Host (Dialogue σ) where
  files := [(hostFile, hostScript)]
  load := p.load permissions
  invoke := p.invoke
  close := p.close

/-- A program that is not there. -/
def missing (path : String) : Peer σ where
  path := path
  start _ _ := pure (.error .notFound)
  hear _ := pure ⟨[], none⟩

end Peer

end AppBundle
