import Egress.Config.Settings
import Egress.Connectivity
import Egress.Keyed
import Egress.Note
import Egress.Procedure
import Egress.Router.Error
import Egress.Text.Search

/-!
# Driving a router

A `Transport` knows the router's settings, the vendors' templates, what the router was last
configured for and how the last health check of a restart ended. Its operations are procedures over
what a router can be asked for (`Router`): they render a vendor's configuration and install it,
restart the tunnel and check it, and read its status.
-/

set_option autoImplicit false

namespace Egress

/-- A file that waits to be installed. -/
structure StagedFile where
  path : String
  content : String
  deriving DecidableEq, Repr

namespace Router

/-- What a command is run for. -/
inductive Purpose where
  | stop
  | start
  | check
  | status
  deriving DecidableEq, Repr

/-- What the operations on a router ask for. -/
inductive Request where
  /-- Run a command; the reply is its output. -/
  | run (purpose : Purpose) (command : String)
  /-- Read the file of a template. -/
  | template (path : String)
  /-- Write a content to a file near its destination; the reply is the file's path. -/
  | stage (destination content : String)
  /-- Put a staged file in its place. -/
  | install (file : StagedFile) (destination : String) (mode : Nat)
  /-- Remove a staged file that is still there. -/
  | discard (file : StagedFile)
  /-- Wait for the time between two health checks. -/
  | pause
  | note (n : Note)

/-- The replies. -/
@[reducible] def Reply : Request → Type
  | .run .. => Except TransportError String
  | .template _ => Except Fault String
  | .stage .. => Except Fault String
  | .install .. => Except TransportError Unit
  | .discard _ => Unit
  | .pause => Unit
  | .note _ => Unit

end Router

/-- What a router can be asked for. -/
abbrev Router : Interface := ⟨Router.Request, Router.Reply⟩

namespace Router

/-- Runs a command. -/
def run (purpose : Purpose) (command : String) :
    Procedure Router (Except TransportError String) :=
  .perform (S := Router) (.run purpose command)

/-- Reads a template's file. -/
def template (path : String) : Procedure Router (Except Fault String) :=
  .perform (S := Router) (.template path)

/-- Stages a file. -/
def stage (destination content : String) : Procedure Router (Except Fault String) :=
  .perform (S := Router) (.stage destination content)

/-- Installs a staged file. -/
def install (file : StagedFile) (destination : String) (mode : Nat) :
    Procedure Router (Except TransportError Unit) :=
  .perform (S := Router) (.install file destination mode)

/-- Removes a staged file. -/
def discard (file : StagedFile) : Procedure Router Unit :=
  .perform (S := Router) (.discard file)

/-- Waits between two health checks. -/
def pause : Procedure Router Unit :=
  .perform (S := Router) .pause

/-- Leaves a note. -/
def note (level : Level) (topic : Topic) (text : String) : Procedure Router Unit :=
  .perform (S := Router) (.note ⟨level, topic, text⟩)

end Router

/-- What the router is configured for. -/
structure Selection where
  vendor : String
  exit : String
  /-- Keys from the vendor's root to the list with the exit. -/
  path : List String
  deriving DecidableEq, Repr

/-- Drives one router. -/
structure Transport where
  router : RouterSettings
  /-- Path of the configuration template of each vendor that has one. -/
  templates : List (String × String) := []
  selection : Option Selection := none
  /-- How the last health check of the last restart ended. -/
  lastProbe : Connectivity := .unknown

namespace Transport

/-- Records what the router is configured for from now on. -/
def select (t : Transport) (vendor exit : String) (path : List String) : Transport :=
  { t with selection := some ⟨vendor, exit, path⟩ }

/-- What commands are told about the tunnel. -/
def commandState (t : Transport) : TunnelState :=
  let s := TunnelState.setConnectivity {} t.lastProbe
  match t.selection with
  | some { vendor, exit, path } => { s with vendor := some vendor, exit := some exit, path }
  | none => s

/-- The command that a template stands for. -/
def command (t : Transport) (template : String) : Except TransportError String :=
  (Template.render t.commandState.templateVariables template).mapError .render

/-! ## Operations -/

/-- Renders a vendor's configuration for an exit and installs it. -/
def push (t : Transport) (vendor exit : String) :
    Procedure Router (Except TransportError Unit) := do
  match Keyed.get? vendor t.templates with
  | none => return .error (.missingTemplate vendor)
  | some path =>
    match ← Router.template path with
    | .error fault => return .error (.render (.unreadable path fault))
    | .ok template =>
      match Template.render (.ofList [("VpnServer", exit), ("Vendor", vendor)]) template with
      | .error e => return .error (.render e)
      | .ok content =>
        let destination := t.router.configFile
        match ← Router.stage destination content with
        | .error fault => return .error (.io fault)
        | .ok staged =>
          let file : StagedFile := ⟨staged, content⟩
          Router.note .info .transport
            ("Installing " ++ vendor ++ " config for " ++ exit ++ " at " ++ destination)
          let result ← Router.install file destination t.router.configMode
          Router.discard file
          return result

/-- Makes the health check once: `unknown` when its command cannot be rendered, `down` when it
fails or its output lacks the text to match. -/
def probe (t : Transport) : Procedure Router Connectivity := do
  match t.command t.router.check.command with
  | .error e =>
    Router.note .warn .transport ("Unable to render check command: " ++ e.message)
    return .unknown
  | .ok command =>
    match ← Router.run .check command with
    | .ok output =>
      if Text.occursIn t.router.check.pattern.toList output.toList then return .up
      else return .down
    | .error e =>
      Router.note .debug .transport ("Check command failed: " ++ e.message)
      return .down

/-- The fault of a restart that took too long. -/
def timeout (t : Transport) : RestartError :=
  match t.selection with
  | some s => .timeout s.vendor s.exit t.router.waitSeconds
  | none => .timeout "" "" t.router.waitSeconds

/-- Makes up to `left` more health checks, a second apart, until one is `up`. -/
def poll : Nat → Transport → Procedure Router (Transport × Except RestartError Unit)
  | 0, t => return (t, .error t.timeout)
  | left + 1, t => do
    let attempt := t.router.waitSeconds - left
    Router.pause
    let connectivity ← t.probe
    let t := { t with lastProbe := connectivity }
    if connectivity.isUp then
      Router.note .info .transport ("VPN up after " ++ toString attempt ++ " check(s)")
      return (t, .ok ())
    else
      Router.note .debug .transport
        ("VPN not up yet (" ++ toString attempt ++ "/" ++ toString t.router.waitSeconds ++ ")")
      poll left t

/-- Stops and starts the tunnel and waits for it to come up. -/
def restart (t : Transport) : Procedure Router (Transport × Except RestartError Unit) := do
  match t.command t.router.stopCommand, t.command t.router.startCommand with
  | .error e, _ => return (t, .error (.transport e))
  | .ok _, .error e => return (t, .error (.transport e))
  | .ok stop, .ok start =>
    Router.note .info .transport "Restarting VPN"
    let t := { t with lastProbe := .unknown }
    match ← Router.run .stop stop with
    | .error e => return (t, .error (.transport e))
    | .ok _ =>
      match ← Router.run .start start with
      | .error e => return (t, .error (.transport e))
      | .ok _ => poll t.router.waitSeconds t

/-- Output of the status command. -/
def status (t : Transport) : Procedure Router (Except TransportError String) := do
  match t.command t.router.statusCommand with
  | .error e => return .error e
  | .ok command => Router.run .status command

/-! ## Description -/

/-- A selection as descriptions show it. -/
def describeSelection : Option Selection → String
  | none => "None"
  | some s =>
    "Some(Selection \x7b vendor: " ++ Text.quote s.vendor ++ ", exit: " ++ Text.quote s.exit
      ++ ", path: " ++ Text.quoteList s.path ++ " \x7d)"

/-- A one-line description. -/
def describe (t : Transport) : String :=
  "RouterTransport \x7b mode: " ++ Text.quote t.router.mode ++ ", selection: "
    ++ describeSelection t.selection ++ ", last_probe: " ++ t.lastProbe.name ++ ", .. \x7d"

end Transport

end Egress
