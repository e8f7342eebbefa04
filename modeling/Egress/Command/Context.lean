import Egress.Config.Load
import Egress.Failure
import Egress.Router.Access
import Egress.Router.Session
import Egress.Service

/-!
# Setting up commands

What every command starts from: the configuration with its settings, the vendors' directories, and a
session with the router. Each step that fails says what was being done.
-/

set_option autoImplicit false

namespace Egress

/-- Something a command does, which may fail. -/
abbrev Action (α : Type) := ExceptT Failure (Procedure Machine) α

/-- Lets a result stand, or fails for a reason worded by `failure`. -/
def Action.ofResult {ε α : Type} (failure : ε → Failure) (p : Procedure Machine (Except ε α)) :
    Action α :=
  ExceptT.mk do return (← p).mapError failure

/-- The failure that a configuration fault is. -/
def ConfigError.failure (e : ConfigError) : Failure :=
  ⟨e.message, e.causes⟩

/-- The failure that a directory fault is. -/
def DirectoryError.failure (e : DirectoryError) : Failure :=
  ⟨e.message, e.causes⟩

/-- A loaded configuration and its settings. -/
structure Context where
  config : Config
  settings : Settings
  /-- What asks for the addresses of servers. -/
  resolver : Resolver := .addressesOnly

namespace Context

/-- Loads the configuration in a file, or looks for one. -/
def load (environment : String → Option String) (path : Option String) : Action Context := do
  let config ← match path with
    | some path =>
      Action.ofResult (fun e => e.failure.within ("Failed to load config from " ++ path))
        (Config.load path)
    | none =>
      Action.ofResult (fun e => e.failure.within "Failed to load config")
        (Config.discover environment)
  match config.settings with
  | .ok settings => return { config, settings }
  | .error e => throw (e.failure.within "Invalid configuration")

/-- Seconds between two rebuilds; says so when the configured number is ignored. -/
def refreshInterval (c : Context) : Action Nat := do
  if c.settings.refreshInterval < minRefresh then
    Machine.note ⟨.warn, .settings, "Ignoring refresh_interval of " ++ toString c.settings.refreshInterval
      ++ "s (minimum " ++ toString minRefresh ++ "s), using " ++ toString defaultRefresh ++ "s"⟩
  return c.settings.effectiveRefresh

/-- Builds every vendor's directory, with what it takes to rebuild them. -/
def service (c : Context) : Action Service := do
  let interval ← c.refreshInterval
  let report := c.config.bootstrap c.resolver c.settings.vendors
  Machine.noteAll report.notes
  match report.value with
  | .ok registry =>
    return { registry, config := c.config, resolver := c.resolver, interval := interval * 1000 }
  | .error e => throw (e.failure.within "Failed to load server directories")

/-- Builds every vendor's directory. -/
def directories (c : Context) : Action Registry := do
  return (← c.service).registry

/-- The directory of a vendor. -/
def vendor (c : Context) (name : String) : Action Directory := do
  let registry ← c.directories
  match registry.get? name with
  | some d => return d
  | none => throw ⟨name ++ " vendor is not defined", []⟩

/-- A transport to the configured router and the mode in which it is reached. -/
def transport (c : Context) : Action (Transport × RouterMode) := do
  let router := c.settings.router
  match RouterMode.ofName router.mode with
  | .error e => throw (e.failure.within "Invalid router configuration")
  | .ok mode =>
    Machine.note ⟨.info, .transport, "Router transport: " ++ router.mode ++ " (" ++ router.address ++ ")"⟩
    return ({ router, templates := c.config.templates c.settings.vendors }, mode)

/-- A session over freshly built directories and the mode in which the router is reached. -/
def session (c : Context) : Action (Session × RouterMode) := do
  let registry ← c.directories
  let (transport, mode) ← c.transport
  return ({ registry, transport }, mode)

/-- Makes a call on a new session; its result and the session afterwards. -/
def call {α : Type} (c : Context) (p : Procedure SessionAccess α) : Action (α × Session) := do
  let (session, mode) ← c.session
  ExceptT.lift (session.call (mode.answer session.transport.router) p)

end Context

end Egress
