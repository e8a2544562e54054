import AppBundle.Disk
import AppBundle.Host.Context
import AppBundle.Host.Message

/-!
# Hosts

A host runs the code of an app: it loads a payload, tells what registry the payload published, and
calls members of the registry. Its state is its own; of the disk it sees what is there when it
loads, and the files that it needs are put beside the payload for it.
-/

namespace AppBundle

open AppBundle.Json

/-- Why a host does not do what it was asked. -/
inductive HostFault where
  /-- There is no host. -/
  | unavailable (reason : String)
  /-- Code of the app failed. -/
  | script (failure : Thrown)
  /-- The host does not keep to its part of the conversation. -/
  | protocol (reason : String)
  /-- The host could not be read from or written to. -/
  | io (reason : String)
  deriving Repr, DecidableEq

/-- The wording of an error. -/
def HostFault.message : HostFault → String
  | .unavailable reason => "script host unavailable: " ++ reason
  | .script failure => failure.message
  | .protocol reason => "script host protocol error: " ++ reason
  | .io reason => "IO error: " ++ reason

/-- A host with states of type `σ`. -/
structure Host (σ : Type) where
  /-- The files that have to stand beside the payload, with their texts. -/
  files : List (String × String)
  /-- Loads the payload at a path and tells the registry, if the payload published one. -/
  load : Disk → Path → Context → StateM σ (Except HostFault (Option Registry))
  /-- Calls a member of the registry. -/
  invoke : String → Option Value → StateM σ (Except HostFault Unit)
  /-- Ends. -/
  close : StateM σ (Except HostFault Unit)

end AppBundle
