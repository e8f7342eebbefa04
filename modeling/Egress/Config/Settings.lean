import Egress.Config.Error

/-!
# Settings

The part of a configuration whose shape does not depend on the vendors: which vendors there are, how
often their directories are rebuilt, the web listener, and the router with its commands.
-/

set_option autoImplicit false

namespace Egress

/-- How commands reach the router. -/
inductive RouterMode where
  /-- This machine is the router. -/
  | local
  | ssh
  deriving DecidableEq, Repr

/-- The mode with this name. -/
def RouterMode.ofName (name : String) : Except ConfigError RouterMode :=
  if name = "local" then .ok .local
  else if name = "ssh" then .ok .ssh
  else .error (.unsupportedMode name)

/-- The name of a mode. -/
def RouterMode.name : RouterMode → String
  | .local => "local"
  | .ssh => "ssh"

/-- The health check: a command template, and a text whose presence in the output means that the
tunnel is up. -/
structure CheckSettings where
  command : String := ""
  pattern : String := ""
  deriving DecidableEq, Repr

/-- The web listener. -/
structure ListenSettings where
  address : String := "0.0.0.0"
  http : Int := 8000
  https : Int := -1
  username : Option String := none
  password : Option String := none
  deriving DecidableEq, Repr

/-- The router: where its configuration goes, its command templates, and how it is reached. -/
structure RouterSettings where
  mode : String := "ssh"
  configFile : String := ""
  /-- Permission bits of the installed configuration. -/
  configMode : Nat := 0o644
  startCommand : String := ""
  stopCommand : String := ""
  statusCommand : String := ""
  check : CheckSettings := {}
  /-- How many seconds, with a check in each, a restart may take. -/
  waitSeconds : Nat := 5
  host : String := "192.168.1.1"
  port : Nat := 22
  user : String := "admin"
  password : Option String := none
  deriving DecidableEq, Repr

/-- The router's address, `host:port`. -/
def RouterSettings.address (r : RouterSettings) : String :=
  r.host ++ ":" ++ toString r.port

/-- Seconds between two rebuilds when none (or a too short one) is configured. -/
def defaultRefresh : Nat := 3600

/-- Fewest seconds between two rebuilds. -/
def minRefresh : Nat := 300

/-- The settings of a configuration. -/
structure Settings where
  vendors : List String := []
  /-- Seconds between two rebuilds of the directories, as configured. -/
  refreshInterval : Nat := defaultRefresh
  listen : ListenSettings := {}
  router : RouterSettings := {}
  deriving DecidableEq, Repr

/-- Seconds between two rebuilds; an interval that is too short is ignored. -/
def Settings.effectiveRefresh (s : Settings) : Nat :=
  if s.refreshInterval < minRefresh then defaultRefresh else s.refreshInterval

end Egress
