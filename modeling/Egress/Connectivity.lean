import Egress.Template

/-!
# Connectivity

What is believed about the tunnel: whether it is up, and the exit it was last pointed at.
-/

set_option autoImplicit false

namespace Egress

/-- Whether the tunnel is up. -/
inductive Connectivity where
  /-- The health check matched. -/
  | up
  /-- The health check did not match or could not be run. -/
  | down
  /-- Nothing is known, or the health check could not be rendered. -/
  | unknown
  deriving DecidableEq, Repr, Inhabited

namespace Connectivity

/-- The word shown to operators. -/
def label : Connectivity → String
  | up => "Connected"
  | down => "Disconnected"
  | unknown => "Unknown"

/-- The word in plain text. -/
def word : Connectivity → String
  | up => "up"
  | down => "down"
  | unknown => "unknown"

/-- The name of the value. -/
def name : Connectivity → String
  | up => "Up"
  | down => "Down"
  | unknown => "Unknown"

/-- Whether it is `up`. -/
def isUp : Connectivity → Bool
  | up => true
  | _ => false

end Connectivity

/-- What is believed about the tunnel. -/
structure TunnelState where
  connectivity : Connectivity := .unknown
  /-- The word for `connectivity`. -/
  label : String := Connectivity.unknown.label
  /-- Output of the last status command. -/
  statusText : String := ""
  vendor : Option String := none
  exit : Option String := none
  /-- Keys from the vendor's root to the list with the exit. -/
  path : List String := []
  deriving DecidableEq, Repr, Inhabited

namespace TunnelState

/-- Changes the connectivity and the word for it. -/
def setConnectivity (s : TunnelState) (c : Connectivity) : TunnelState :=
  { s with connectivity := c, label := c.label }

/-- Variables of router command templates. -/
def templateVariables (s : TunnelState) : Template.Variables :=
  .ofList
    [("Vendor", s.vendor.getD ""), ("Exit", s.exit.getD ""), ("Connected", s.label),
     ("ExitPath", "/".intercalate s.path)]

end TunnelState

end Egress
