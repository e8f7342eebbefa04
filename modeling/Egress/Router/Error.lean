import Egress.Template

/-!
# What can go wrong with a router

Faults of single operations on the router (`TransportError`), of restarting the tunnel and of
selecting an exit, each with its wording and the wordings of what lies behind it.
-/

set_option autoImplicit false

namespace Egress

/-- Why an operation on the router failed. -/
inductive TransportError where
  /-- The command has no words. -/
  | emptyCommand
  | spawn (command : String) (fault : Fault)
  /-- The command ended with a status other than zero, or was killed (no status). -/
  | commandFailed (command : String) (status : Option Int) (errorOutput : String)
  | connect (address reason : String)
  | authRejected (user : String)
  | ssh (reason : String)
  | copy (destination reason : String)
  /-- The vendor has no configuration template. -/
  | missingTemplate (vendor : String)
  | render (e : RenderError)
  | io (fault : Fault)
  deriving DecidableEq, Repr

/-- An exit status as messages show it. -/
def statusText : Option Int → String
  | some n => "Some(" ++ toString n ++ ")"
  | none => "None"

namespace TransportError

/-- The wording. -/
def message : TransportError → String
  | emptyCommand => "Empty command"
  | spawn command fault => "Unable to run `" ++ command ++ "`: " ++ fault.message
  | commandFailed command status errorOutput =>
    "`" ++ command ++ "` failed (exit status " ++ statusText status ++ "): " ++ errorOutput
  | connect address reason => "Failed to connect to " ++ address ++ ": " ++ reason
  | authRejected user => "Authentication rejected for user " ++ user
  | ssh reason => "SSH error: " ++ reason
  | copy destination reason => "Failed to copy config to " ++ destination ++ ": " ++ reason
  | missingTemplate vendor => "No config_template configured for " ++ vendor
  | render e => e.message
  | io fault => "I/O error: " ++ fault.message

/-- The wordings of what lies behind it. -/
def causes : TransportError → List String
  | spawn _ fault => [fault.message]
  | render e => e.causes
  | io fault => [fault.message]
  | _ => []

end TransportError

/-- Why the tunnel did not come up again. -/
inductive RestartError where
  | transport (e : TransportError)
  /-- No health check matched in time. -/
  | timeout (vendor exit : String) (seconds : Nat)
  deriving DecidableEq, Repr

namespace RestartError

/-- The wording. -/
def message : RestartError → String
  | transport e => e.message
  | timeout vendor exit seconds =>
    exit ++ " VPN to " ++ vendor ++ " did not come up after " ++ toString seconds ++ " seconds"

/-- The wordings of what lies behind it. -/
def causes : RestartError → List String
  | transport e => e.causes
  | timeout .. => []

end RestartError

/-- Why an exit could not be selected. -/
inductive SelectError where
  | unknownVendor (vendor : String)
  | exitNotFound (vendor exit : String)
  /-- The router's configuration could not be replaced. -/
  | push (e : TransportError)
  | restart (e : RestartError)
  /-- The status command failed after the tunnel came up. -/
  | status (e : TransportError)
  deriving DecidableEq, Repr

namespace SelectError

/-- The wording. -/
def message : SelectError → String
  | unknownVendor vendor => vendor ++ " vendor is not defined"
  | exitNotFound vendor exit => exit ++ " is not a known " ++ vendor ++ " exit"
  | push e => "Unable to update router config: " ++ e.message
  | restart e => e.message
  | status e => "Unable to read VPN status: " ++ e.message

/-- The wordings of what lies behind it. -/
def causes : SelectError → List String
  | push e => e.message :: e.causes
  | restart e => e.causes
  | status e => e.message :: e.causes
  | _ => []

end SelectError

end Egress
