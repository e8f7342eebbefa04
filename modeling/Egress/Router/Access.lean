import Egress.Host.Path
import Egress.Machine
import Egress.Router.Transport
import Egress.Text.Blank
import Egress.Text.Utf8

/-!
# Reaching the router

Two ways to carry out the operations on a router from this machine. `Local`: this machine is the
router; commands are split at blanks and run without a shell, and a configuration is staged next to
its destination and renamed into place. `Remote`: the router is reached over the network, and every
command and every copy opens a connection of its own.
-/

set_option autoImplicit false

namespace Egress

namespace Local

/-- Runs a command and gives its output. -/
def run (command : String) : Procedure Machine (Except TransportError String) := do
  match (Text.words command.toList).map String.ofList with
  | [] => return .error .emptyCommand
  | program :: args =>
    Machine.note ⟨.debug, .commands, "Executing: " ++ command⟩
    match ← Machine.spawn program args with
    | .error fault => return .error (.spawn command fault)
    | .ok o =>
      let output := Text.decodeLossy o.output
      Machine.note ⟨.debug, .commands, "Output of `" ++ command ++ "`: " ++ output.trimBlankEnd⟩
      if o.status = some 0 then return .ok output
      else
        return .error (.commandFailed command (o.status.map Int.ofNat)
          (Text.decodeLossy o.errors).trimBlankEnd)

/-- Writes a content to a new file in a directory; gives its path. A file that cannot be written is
removed again. -/
def stage (dir content : String) : Procedure Machine (Except Fault String) := do
  match ← Machine.create dir with
  | .error fault => return .error fault
  | .ok path =>
    match ← Machine.append path content with
    | .error fault =>
      Machine.remove path
      return .error fault
    | .ok () =>
      match ← Machine.flush path with
      | .error fault =>
        Machine.remove path
        return .error fault
      | .ok () => return .ok path

/-- Lets a file take the place of another, with permission bits. -/
def install (source destination : String) (mode : Nat) :
    Procedure Machine (Except TransportError Unit) := do
  match ← Machine.setMode source mode with
  | .error fault => return .error (.io fault)
  | .ok () =>
    match ← Machine.rename source destination with
    | .error fault => return .error (.copy destination fault.message)
    | .ok () =>
      Machine.note ⟨.debug, .commands, "Installed " ++ destination⟩
      return .ok ()

/-- Carries out the operations on the router. -/
def answer : (q : Router.Request) → Procedure Machine (Router.Reply q)
  | .run _ command => run command
  | .template path => Machine.readText path
  | .stage destination content => stage (Host.stagingDir destination) content
  | .install file destination mode => install file.path destination mode
  | .discard file => Machine.remove file.path
  | .pause => Machine.pause
  | .note n => Machine.note n

end Local

namespace Remote

/-- Tries to reach the router. -/
def connect {α : Type} (address : String) : Procedure Machine (Except TransportError α) := do
  Machine.note ⟨.debug, .connection, "Connecting to " ++ address⟩
  let fault ← Machine.connect address
  return .error (.connect address fault.message)

/-- Runs a command. -/
def run (address command : String) : Procedure Machine (Except TransportError String) := do
  if (Text.trim command.toList).isEmpty then return .error .emptyCommand
  connect address

/-- Carries out the operations on the router at an address. A staged file is sent from memory. -/
def answer (address : String) : (q : Router.Request) → Procedure Machine (Router.Reply q)
  | .run _ command => run address command
  | .template path => Machine.readText path
  | .stage destination _ => return .ok destination
  | .install .. => connect address
  | .discard _ => pure ()
  | .pause => Machine.pause
  | .note n => Machine.note n

end Remote

/-- Carries out the operations on a router in a mode. -/
def RouterMode.answer (mode : RouterMode) (settings : RouterSettings) :
    (q : Router.Request) → Procedure Machine (Router.Reply q) :=
  match mode with
  | .local => Local.answer
  | .ssh => Remote.answer settings.address

end Egress
