import Egress.Registry
import Egress.Router.Transport

/-!
# Sessions

A session points the router at exits of the vendors' directories and publishes what is believed
about the tunnel. Its transport is lent to one call at a time: every call (`select`, `check`,
`refreshStatus`) asks for it first and gives it back at its end, so calls in flight never mix their
operations on the router. The tunnel is published as down as soon as a new configuration is
installed, and as up only when a health check matched and the status could be read.
-/

set_option autoImplicit false

namespace Egress

namespace SessionAccess

/-- What a call on a session asks for. -/
inductive Request where
  /-- Wait until no other call has the transport, and take it. -/
  | acquire
  /-- Give the transport back as it is now. -/
  | release (t : Transport)
  /-- The current directory of a vendor. -/
  | directory (vendor : String)
  /-- Change the published state. -/
  | publish (change : TunnelState → TunnelState)
  /-- The published state. -/
  | snapshot
  /-- A request to the router. -/
  | router (q : Router.Request)

/-- The replies. -/
@[reducible] def Reply : Request → Type
  | .acquire => Transport
  | .release _ => Unit
  | .directory _ => Option Directory
  | .publish _ => Unit
  | .snapshot => TunnelState
  | .router q => Router.Reply q

end SessionAccess

/-- What a session and its router can be asked for. -/
abbrev SessionAccess : Interface := ⟨SessionAccess.Request, SessionAccess.Reply⟩

namespace SessionAccess

/-- Takes the transport. -/
def acquire : Procedure SessionAccess Transport :=
  .perform (S := SessionAccess) .acquire

/-- Gives the transport back. -/
def release (t : Transport) : Procedure SessionAccess Unit :=
  .perform (S := SessionAccess) (.release t)

/-- Reads a vendor's current directory. -/
def directory (vendor : String) : Procedure SessionAccess (Option Directory) :=
  .perform (S := SessionAccess) (.directory vendor)

/-- Changes the published state. -/
def publish (change : TunnelState → TunnelState) : Procedure SessionAccess Unit :=
  .perform (S := SessionAccess) (.publish change)

/-- Reads the published state. -/
def snapshot : Procedure SessionAccess TunnelState :=
  .perform (S := SessionAccess) .snapshot

/-- An operation on the router. -/
def onRouter {α : Type} (p : Procedure Router α) : Procedure SessionAccess α :=
  p.run fun q => .perform (S := SessionAccess) (.router q)

/-- Leaves a note. -/
def note (level : Level) (text : String) : Procedure SessionAccess Unit :=
  onRouter (Router.note level .session text)

/-- A call that has the transport to itself, and gives it back changed. -/
def exclusive {α : Type} (body : Transport → Procedure SessionAccess (Transport × α)) :
    Procedure SessionAccess α := do
  let (t, a) ← body (← acquire)
  release t
  return a

end SessionAccess

/-- Directories, transport and published state of a session. -/
structure Session where
  registry : Registry
  transport : Transport
  published : Channel TunnelState := { value := {} }

/-- The state once the tunnel came up for a selection. -/
def TunnelState.broughtUp (s : Selection) (statusText : String) (state : TunnelState) :
    TunnelState :=
  { state.setConnectivity .up with
    vendor := some s.vendor, exit := some s.exit, path := s.path, statusText }

/-- The state once a text was read from the status command. -/
def TunnelState.withStatus (statusText : String) (state : TunnelState) : TunnelState :=
  { state with statusText }

namespace Session

open SessionAccess

/-! ## Calls -/

/-- Restarts the tunnel for a selection that is installed, and reads the status. -/
def bringUp (t : Transport) (s : Selection) :
    Procedure SessionAccess (Transport × Except SelectError TunnelState) := do
  let (t, restarted) ← onRouter t.restart
  match restarted with
  | .error e =>
    publish (·.setConnectivity t.lastProbe)
    note .error ("Restart failed: " ++ e.message)
    return (t, .error (.restart e))
  | .ok () =>
    match ← onRouter t.status with
    | .error e => return (t, .error (.status e))
    | .ok statusText =>
      publish (.broughtUp s statusText)
      return (t, .ok (← snapshot))

/-- Points the router at an exit of a vendor and waits for the tunnel to come up; gives the state
that is published then. -/
def select (vendor exit : String) : Procedure SessionAccess (Except SelectError TunnelState) :=
  exclusive fun t => do
    match ← directory vendor with
    | none => return (t, .error (.unknownVendor vendor))
    | some d =>
      match d.find? exit with
      | none => return (t, .error (.exitNotFound vendor exit))
      | some path =>
        note .info
          ("Selecting " ++ vendor ++ " exit " ++ exit ++ " (" ++ "/".intercalate path ++ ")")
        match ← onRouter (t.push vendor exit) with
        | .error e => return (t, .error (.push e))
        | .ok () =>
          publish (·.setConnectivity .down)
          bringUp (t.select vendor exit path) ⟨vendor, exit, path⟩

/-- Makes the health check and publishes its result. -/
def check : Procedure SessionAccess Connectivity :=
  exclusive fun t => do
    let connectivity ← onRouter t.probe
    publish (·.setConnectivity connectivity)
    return (t, connectivity)

/-- Runs the status command and publishes its output. -/
def refreshStatus : Procedure SessionAccess (Except TransportError String) :=
  exclusive fun t => do
    match ← onRouter t.status with
    | .error e => return (t, .error e)
    | .ok text =>
      publish (.withStatus text)
      return (t, .ok text)

/-! ## Running calls one after another -/

/-- Answers the requests of a call on a session that no other call uses; the router's are passed
on. -/
def answer {m : Type → Type} [Monad m] (router : (q : Router.Request) → m (Router.Reply q)) :
    (q : SessionAccess.Request) → StateT Session m (SessionAccess.Reply q)
  | .acquire => return (← get).transport
  | .release t => modify fun s => { s with transport := t }
  | .directory vendor => return (← get).registry.get? vendor
  | .publish change => modify fun s => { s with published := s.published.modify change }
  | .snapshot => return (← get).published.value
  | .router q => liftM (router q)

/-- Runs a call on a session. -/
def call {m : Type → Type} [Monad m] {α : Type}
    (router : (q : Router.Request) → m (Router.Reply q)) (p : Procedure SessionAccess α)
    (s : Session) : m (α × Session) :=
  (p.run (answer router)).run s

/-- A reader of the published state that has seen the current one. -/
def reader (s : Session) : Subscription :=
  s.published.subscribe

end Session

end Egress
