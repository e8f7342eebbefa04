import Egress.Connectivity
import Egress.Directory.Basic
import Egress.Output.Grid
import Egress.Text.Blank

/-!
# Showing results

Texts for vendors, states, paths and servers, and the coloured messages that tell success from
failure.
-/

set_option autoImplicit false

namespace Egress

/-- Most columns a grid takes. -/
def gridLimit : Nat := 100

/-- The row of a vendor in the list of vendors. -/
def vendorRow (d : Directory) : List String :=
  [d.name, if d.levels.isEmpty then "-" else " > ".intercalate d.levels,
   if d.resolve then "yes" else "no", toString d.count]

/-- The list of vendors. -/
def formatVendors (directories : List Directory) : String :=
  if directories.isEmpty then "No vendors configured"
  else Grid.render gridLimit ["VENDOR", "LEVELS", "RESOLVED", "EXITS"] (directories.map vendorRow)

/-- A path of keys. -/
def formatPath (path : List String) : String :=
  if path.isEmpty then "(top level)" else " > ".intercalate path

/-- A state, a line for each part that there is. -/
def formatState (s : TunnelState) : String :=
  "VPN: " ++ s.label ++ "\n"
    ++ "Vendor: " ++ s.vendor.getD "-" ++ "\n"
    ++ "Exit: " ++ s.exit.getD "-" ++ "\n"
    ++ (if s.path.isEmpty then "" else "Path: " ++ " > ".intercalate s.path ++ "\n")
    ++ (if s.statusText.trimBlank = "" then "" else "\n" ++ s.statusText.trimBlankEnd ++ "\n")

/-- A server, with its addresses unless it is its only address. -/
def formatEntry (e : ServerEntry) : String :=
  e.name ++ (if e.addresses = [e.name] then "" else " (" ++ ", ".intercalate e.addresses ++ ")")
    ++ "\n"

/-- Servers, one a line. -/
def formatEntries (entries : List ServerEntry) : String :=
  String.join (entries.map formatEntry)

/-- A state as JSON. -/
def TunnelState.toJson (s : TunnelState) : Json :=
  .object
    [("connectivity", .text s.connectivity.name), ("label", .text s.label),
     ("status_text", .text s.statusText), ("vendor", .ofOption s.vendor),
     ("exit", .ofOption s.exit), ("path", .texts s.path)]

/-! ## Coloured messages -/

/-- How a message is meant. -/
inductive Tone where
  | success
  | failure
  | warning
  deriving DecidableEq, Repr

/-- The tone of a connectivity. -/
def Connectivity.tone : Connectivity → Tone
  | .up => .success
  | .down => .failure
  | .unknown => .warning

/-- Number of the colour of a tone. -/
def Tone.color : Tone → Nat
  | .success => 10
  | .failure => 9
  | .warning => 11

/-- The sign in front of a message. -/
def Tone.sign : Tone → String
  | .success => "✓"
  | .failure => "✗"
  | .warning => "⚠"

/-- Whether a message belongs on the error stream. -/
def Tone.onErrors : Tone → Bool
  | .success => false
  | _ => true

/-- A message behind a coloured sign. -/
def formatMessage (tone : Tone) (text : String) : String :=
  "\x1b[38;5;" ++ toString tone.color ++ "m" ++ tone.sign ++ " \x1b[0m" ++ text ++ "\n"

end Egress
