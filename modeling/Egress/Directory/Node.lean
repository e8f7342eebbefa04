import Egress.Json
import Egress.Keyed

/-!
# Nodes of a directory

A directory is a tree whose nodes are lists of endpoints or maps from keys to further nodes. A node
starts undefined and commits to one of the two with its first write; writing the other kind later is
a conflict. `walk` follows a path of keys and `update?` changes the node at its end. A map keeps its
children in the order in which their keys came; what is shown is in order of the keys.
-/

set_option autoImplicit false

namespace Egress

/-- A node of a directory. -/
inductive Node where
  | undefined
  | list (endpoints : List String)
  | map (children : List (String × Node))

instance : Inhabited Node := ⟨.undefined⟩

/-- What a node has committed to. -/
inductive NodeKind where
  | undefined
  | list
  | map
  deriving DecidableEq, Repr

/-- The word for a kind. -/
def NodeKind.label : NodeKind → String
  | .undefined => "undefined"
  | .list => "list"
  | .map => "map"

/-- A write that a node's kind does not allow. -/
structure Conflict where
  existing : NodeKind
  attempted : NodeKind
  deriving DecidableEq, Repr

/-- The wording of a conflict. -/
def Conflict.message (c : Conflict) : String :=
  "Type conflict: node is already a " ++ c.existing.label ++ ", cannot write a "
    ++ c.attempted.label

/-- Texts in byte order. -/
def sortTexts (ss : List String) : List String :=
  ss.mergeSort fun a b => decide (a ≤ b)

/-- Entries in byte order of their keys. -/
def sortEntries {α : Type} (es : List (String × α)) : List (String × α) :=
  es.mergeSort fun a b => decide (a.1 ≤ b.1)

namespace Node

/-- The node's kind. -/
def kind : Node → NodeKind
  | undefined => .undefined
  | list _ => .list
  | map _ => .map

/-! ## Writing -/

/-- Replaces the endpoints. -/
def setList (endpoints : List String) : Node → Except Conflict Node
  | undefined => .ok (list endpoints)
  | list _ => .ok (list endpoints)
  | map _ => .error ⟨.map, .list⟩

/-- Adds endpoints at the end. -/
def appendList (endpoints : List String) : Node → Except Conflict Node
  | undefined => .ok (list endpoints)
  | list existing => .ok (list (existing ++ endpoints))
  | map _ => .error ⟨.map, .list⟩

/-- Puts a child under a key, in place of the one that is there. -/
def setChild (n : Node) (key : String) (child : Node) : Except Conflict Node :=
  match n with
  | undefined => .ok (map [(key, child)])
  | list _ => .error ⟨.list, .map⟩
  | map children => .ok (map (Keyed.set key child children))

/-! ## Reading -/

/-- The endpoints of a list. -/
def endpoints? : Node → Option (List String)
  | list endpoints => some endpoints
  | _ => none

/-- The children of a map. -/
def children : Node → List (String × Node)
  | map children => children
  | _ => []

/-- The child under a key. -/
def child? (key : String) : Node → Option Node
  | map children => Keyed.get? key children
  | _ => none

/-- The node at the end of a path. -/
def walk : Node → List String → Option Node
  | n, [] => some n
  | n, k :: path => (n.child? k).bind (walk · path)

/-- Changes the node at the end of a path, if there is one. -/
def update? {ε : Type} (change : Node → Except ε Node) : List String → Node → Option (Except ε Node)
  | [], n => some (change n)
  | k :: path, map children =>
    (Keyed.get? k children).bind fun child =>
      (update? change path child).map fun r =>
        r.map fun child => map (Keyed.set k child children)
  | _ :: _, _ => none

mutual

/-- The keys on the way to the first list with an endpoint, in order of the children. They are
collected on the way back, so the last key comes first. -/
def search? (target : String) : Node → Option (List String)
  | undefined => none
  | list endpoints => if target ∈ endpoints then some [] else none
  | map children => searchChildren? target children

/-- The keys through the first of some children below which there is a list with an endpoint. -/
def searchChildren? (target : String) : List (String × Node) → Option (List String)
  | [] => none
  | (k, n) :: rest => match search? target n with
    | some keys => some (keys ++ [k])
    | none => searchChildren? target rest

end

/-- Path to the first list with an endpoint, in order of the children. -/
def find? (target : String) (n : Node) : Option (List String) :=
  (n.search? target).map List.reverse

mutual

/-- How many endpoints there are, in all lists together. -/
def count : Node → Nat
  | undefined => 0
  | list endpoints => endpoints.length
  | map children => countChildren children

/-- How many endpoints there are below some children. -/
def countChildren : List (String × Node) → Nat
  | [] => 0
  | (_, n) :: rest => count n + countChildren rest

end

/-! ## Showing -/

/-- A line of an outline at a depth. -/
def outlineLine (depth : Nat) (text : String) : String :=
  Text.indent depth ++ text ++ "\n"

mutual

/-- Lines of the outline of a node at a depth. -/
def outlineLines (depth : Nat) : Node → List String
  | undefined => []
  | list endpoints => endpoints.map fun e => outlineLine depth ("- " ++ e)
  | map children =>
    (sortEntries (outlineChildren depth children)).flatMap fun (k, lines) =>
      outlineLine depth (k ++ ":") :: lines

/-- Lines of the outlines below each of some children at a depth. -/
def outlineChildren (depth : Nat) : List (String × Node) → List (String × List String)
  | [] => []
  | (k, n) :: rest => (k, outlineLines (depth + 1) n) :: outlineChildren depth rest

end

/-- The tree as indented text, keys in order. -/
def outline (n : Node) : String :=
  String.join (n.outlineLines 0)

mutual

/-- The tree as JSON, keys in order. -/
def toJson : Node → Json
  | undefined => .null
  | list endpoints => .texts endpoints
  | map children => .object (sortEntries (childrenToJson children))

/-- Children as JSON members. -/
def childrenToJson : List (String × Node) → List (String × Json)
  | [] => []
  | (k, n) :: rest => (k, toJson n) :: childrenToJson rest

end

@[simp] theorem walk_nil (n : Node) : n.walk [] = some n := by
  cases n <;> rfl

theorem walk_cons (n : Node) (k : String) (path : List String) :
    n.walk (k :: path) = (n.child? k).bind (walk · path) := by
  cases n <;> rfl

theorem walk_append (n : Node) (p q : List String) :
    n.walk (p ++ q) = (n.walk p).bind (walk · q) := by
  induction p generalizing n with
  | nil => simp
  | cons k p ih =>
    simp only [List.cons_append, walk_cons]
    cases n.child? k with
    | none => rfl
    | some m => simpa using ih m

end Node

end Egress
