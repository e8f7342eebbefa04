import Egress.Address
import Egress.Fault
import Egress.Keyed
import Egress.Report

/-!
# Resolving servers

Servers are configured by identifier: a host name or an address. A resolver turns an identifier into
address texts. An identifier that is an address stands for itself and nobody is asked; any other is
asked of a name service. A failed look-up never stops anything: the identifier is dropped, or kept
as it is when it has the shape of an address and the resolver retains those.
-/

set_option autoImplicit false

namespace Egress

/-- A look-up that failed. -/
structure ResolutionError where
  host : String
  fault : Fault
  deriving DecidableEq, Repr

/-- The wording of a failed look-up. -/
def ResolutionError.message (e : ResolutionError) : String :=
  "Error resolving " ++ e.host ++ ": " ++ e.fault.message

/-- Turns identifiers into addresses. -/
structure Resolver where
  /-- The name service's answer for a host. -/
  lookup : String → Except Fault (List Address)
  /-- Whether identifiers of the shape of an address are kept when their look-up fails. -/
  retainShaped : Bool := true

/-- Addresses of identifiers, one entry each. -/
abbrev Resolved := List (String × List String)

namespace Resolver

/-- Asks the name service. -/
def ask (r : Resolver) (host : String) : Report (Except Fault (List Address)) :=
  ⟨r.lookup host, [host], []⟩

/-- Addresses of an identifier, or why its look-up failed. -/
def tryResolve (r : Resolver) (identifier : String) :
    Report (Except ResolutionError (List String)) :=
  if Address.isLiteral identifier then pure (.ok [identifier])
  else do
    match ← r.ask identifier with
    | .ok addresses => pure (.ok (addresses.map Address.text))
    | .error fault => pure (.error ⟨identifier, fault⟩)

/-- Addresses of an identifier, none when it is dropped. -/
def resolve (r : Resolver) (identifier : String) : Report (List String) := do
  match ← r.tryResolve identifier with
  | .ok addresses => pure addresses
  | .error e =>
    if r.retainShaped && Address.isShaped identifier then do
      Report.note .warn .resolver (e.message ++ "; keeping " ++ identifier ++ " as-is")
      pure [identifier]
    else do
      Report.note .warn .resolver e.message
      pure []

/-- Notes the addresses of an identifier that has any. -/
def keep (resolved : Resolved) (identifier : String) (addresses : List String) : Resolved :=
  if addresses.isEmpty then resolved else Keyed.set identifier addresses resolved

/-- Addresses of identifiers, asked for one after the other; those without any are left out. -/
def resolveAll (r : Resolver) (identifiers : List String) : Report Resolved :=
  identifiers.foldlM (fun resolved identifier => do
    return keep resolved identifier (← r.resolve identifier)) []

/-- The resolver that knows addresses only: each is answered in canonical form. -/
def addressesOnly : Resolver where
  lookup host := match Address.ofText? host with
    | some a => .ok [a]
    | none => .error (.other "failed to lookup address information: Name or service not known")

/-- A table of hosts as a name service. -/
def ofTable (table : List (String × Except Fault (List Address))) : Resolver where
  lookup host := match Keyed.get? host table with
    | some answer => answer
    | none => .error (.other "no such host")

/-- A one-line description. -/
def describe (r : Resolver) : String :=
  "Resolver \x7b retain_ip_shaped: " ++ (if r.retainShaped then "true" else "false") ++ ", .. \x7d"

end Resolver

end Egress
