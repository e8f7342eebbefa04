import Egress.Config.Error
import Egress.Directory.Node
import Egress.Resolver

/-!
# Directories of servers

The directory of a vendor: a tree with one layer of maps for every level the vendor declares and the
server lists below the last. Where the servers were resolved, the lists hold addresses; `entriesAt`
groups those back under the identifiers they came from.
-/

set_option autoImplicit false

namespace Egress

/-- Why a directory cannot be built. -/
inductive DirectoryError where
  | conflict (c : Conflict)
  | config (e : ConfigError)

/-- The wording of a directory fault. -/
def DirectoryError.message : DirectoryError → String
  | .conflict c => c.message
  | .config e => e.message

/-- The wordings of what lies behind a directory fault. -/
def DirectoryError.causes : DirectoryError → List String
  | .conflict _ => []
  | .config e => e.causes

/-- A vendor's servers. -/
structure Directory where
  /-- The vendor. -/
  name : String
  /-- Labels of the levels, outermost first. -/
  levels : List String := []
  /-- Whether the lists hold the addresses of the servers in place of their identifiers. -/
  resolve : Bool := false
  root : Node := .undefined
  /-- Addresses of the identifiers that have any, when `resolve` is set. -/
  resolved : Resolved := []

/-- A configured server and the addresses it stands for. -/
structure ServerEntry where
  name : String
  addresses : List String
  deriving DecidableEq, Repr

/-- The server as JSON. -/
def ServerEntry.toJson (e : ServerEntry) : Json :=
  .object [("name", .text e.name), ("addresses", .texts e.addresses)]

namespace Directory

/-- Path to the list with an exit. -/
def find? (d : Directory) (exit : String) : Option (List String) :=
  d.root.find? exit

/-- The server list at a path. -/
def serversAt (d : Directory) (path : List String) : Except ConfigError (List String) :=
  match (d.root.walk path).bind Node.endpoints? with
  | some servers => .ok servers
  | none => .error (.noServers path)

/-- The keys at a path, in order; a list has none. -/
def keysAt (d : Directory) (path : List String) : Except ConfigError (List String) :=
  match d.root.walk path with
  | some n => .ok (sortTexts (Keyed.keys n.children))
  | none => .error (.noNode path)

/-- Identifiers that an address belongs to, in order; the address itself when there is none. -/
def owners (d : Directory) (address : String) : List String :=
  match Keyed.keys (d.resolved.filter fun e => address ∈ e.2) with
  | [] => [address]
  | identifiers => sortTexts identifiers

/-- Adds an address to the entries of its owners; an owner without an entry gets one at the end. -/
def addAddress (d : Directory) (entries : Resolved) (address : String) : Resolved :=
  (d.owners address).foldl
    (fun es owner => Keyed.set owner ((Keyed.get? owner es).getD [] ++ [address]) es) entries

/-- The servers at a path with their addresses. -/
def entriesAt (d : Directory) (path : List String) : Except ConfigError (List ServerEntry) := do
  let servers ← d.serversAt path
  if d.resolve then
    return (servers.foldl d.addAddress []).map fun (name, addresses) => ⟨name, addresses⟩
  else return servers.map fun server => ⟨server, [server]⟩

/-- The tree as indented text. -/
def outline (d : Directory) : String :=
  d.root.outline

/-- How many endpoints there are. -/
def count (d : Directory) : Nat :=
  d.root.count

end Directory

end Egress
