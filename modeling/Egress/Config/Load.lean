import Egress.Config.Basic
import Egress.Machine

/-!
# Finding the configuration

A configuration is loaded from a given file, or from the first file there is among the usual ones;
without any, the built-in values stand.
-/

set_option autoImplicit false

namespace Egress.Config

/-- Loads the configuration in a file. -/
def load (path : String) : Procedure Machine (Except ConfigError Config) := do
  if !(← Machine.has path) then return .error (.notFound path)
  match ← Machine.readText path with
  | .error fault => return .error (.unreadable fault)
  | .ok text => return parse text

/-- Where the variables of the environment put the directory of configurations. -/
def directory (environment : String → Option String) : String :=
  match (environment "XDG_CONFIG_HOME").filter (·.toList.head? = some '/') with
  | some dir => dir
  | none => match (environment "HOME").filter (· ≠ "") with
    | some home => home ++ "/.config"
    | none => "."

/-- The usual files, the most important first. -/
def searchPaths (environment : String → Option String) : List String :=
  ["./config.toml", directory environment ++ "/vpnexiter/config.toml"]

/-- Loads the first file there is. -/
def loadFirst : List String → Procedure Machine (Except ConfigError Config)
  | [] => do
    Machine.note ⟨.info, .configuration, "Using default configuration"⟩
    return .ok defaults
  | path :: rest => do
    if ← Machine.isFile path then
      Machine.note ⟨.info, .configuration, "Loading config file: " ++ path⟩
      load path
    else loadFirst rest

/-- Finds and loads the configuration. -/
def discover (environment : String → Option String) :
    Procedure Machine (Except ConfigError Config) :=
  loadFirst (searchPaths environment)

end Egress.Config
