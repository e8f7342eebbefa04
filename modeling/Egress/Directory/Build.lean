import Egress.Config.Basic
import Egress.Directory.Basic

/-!
# Building directories

A vendor's directory is built in two steps. `Config.plan` follows the configuration key by key and
gives the tree of configured servers with the paths of its lists; only when all of it is in order
are names resolved, list by list in the order of the paths (`resolveLists`).
-/

set_option autoImplicit false

namespace Egress

/-- A directory before its servers are resolved. -/
structure Plan where
  levels : List String
  resolve : Bool
  root : Node
  /-- Paths of the server lists, in order of the keys. -/
  lists : List (List String)

namespace Config

/-- The node below a path of keys of the document and the paths of its lists, seen from the
node. `levels` are the labels of the maps down to the lists. -/
def nodeAt (c : Config) : List String → List String →
    Except DirectoryError (Node × List (List String))
  | [], path => match c.shapeAt? path with
    | none => .error (.config (.missing (".".intercalate path)))
    | some .table => .error (.config (.tableForServers path))
    | some _ => match Node.undefined.setList (c.stringsAt path) with
      | .ok n => .ok (n, [[]])
      | .error e => .error (.conflict e)
  | level :: deeper, path => match c.shapeAt? path with
    | none => .error (.config (.missing (".".intercalate path)))
    | some .table =>
      (c.keysAt path).foldlM (fun (node, lists) key => do
        let (child, below) ← nodeAt c deeper (path ++ [key])
        match node.setChild key child with
        | .ok node => .ok (node, lists ++ below.map (key :: ·))
        | .error e => .error (.conflict e)) (.map [], [])
    | some found => .error (.config (.noTableFor path level found))

/-- A vendor's directory as configured. -/
def plan (c : Config) (vendor : String) : Except DirectoryError Plan := do
  if !c.mem vendor then throw (.config (.unknownVendor vendor))
  let servers := vendor ++ ".servers"
  if !c.mem servers then throw (.config (.missing servers))
  let levels := c.strings (vendor ++ ".levels")
  if maxLevels < levels.length then throw (.config (.unsupportedDepth vendor levels.length))
  let (root, lists) ← c.nodeAt levels [vendor, "servers"]
  return { levels, resolve := c.flag (vendor ++ ".resolve_servers"), root, lists }

end Config

/-! ## Resolving -/

/-- Adds the addresses that are not there yet. -/
def addNew (known addresses : List String) : List String :=
  addresses.foldl (fun acc a => if a ∈ acc then acc else acc ++ [a]) known

/-- Addresses of a list of identifiers, each once, and the map of what was found so far. -/
def Resolver.resolveList (r : Resolver) (resolved : Resolved) (identifiers : List String) :
    Report (List String × Resolved) :=
  identifiers.foldlM (fun (addresses, resolved) identifier => do
    let found ← r.resolve identifier
    return (addNew addresses found, keep resolved identifier found)) ([], resolved)

/-- Replaces the lists at the paths of a tree by the addresses of their identifiers. -/
def Resolver.resolveLists (r : Resolver) (vendor : String) :
    List (List String) → Node → Resolved → Report (Except DirectoryError (Node × Resolved))
  | [], root, resolved => pure (.ok (root, resolved))
  | path :: rest, root, resolved =>
    match root.walk path with
    | none => pure (.error (.config (.lostLeaf vendor path)))
    | some node => do
      let (addresses, resolved) ← r.resolveList resolved (node.endpoints?.getD [])
      match Node.update? (Node.setList addresses) path root with
      | some (.ok root) => r.resolveLists vendor rest root resolved
      | some (.error e) => pure (.error (.conflict e))
      | none => pure (.error (.config (.lostLeaf vendor path)))

/-- The servers of a plan, resolved if it asks for that. -/
def Plan.settle (p : Plan) (r : Resolver) (vendor : String) :
    Report (Except DirectoryError (Node × Resolved)) :=
  if p.resolve then r.resolveLists vendor p.lists p.root []
  else pure (.ok (p.root, []))

/-- Builds a vendor's directory. -/
def Config.build (c : Config) (r : Resolver) (vendor : String) :
    Report (Except DirectoryError Directory) := do
  Report.note .info .build ("Loading: " ++ vendor)
  match c.plan vendor with
  | .error e => pure (.error e)
  | .ok plan =>
    match ← plan.settle r vendor with
    | .error e => pure (.error e)
    | .ok (root, resolved) => do
      Report.note .info .build ("Finished loading " ++ vendor ++ " in 0.00sec")
      pure (.ok { name := vendor, levels := plan.levels, resolve := plan.resolve, root, resolved })

end Egress
