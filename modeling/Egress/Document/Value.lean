import Egress.Decimal
import Egress.Keyed

/-!
# Document values

The values a configuration document holds. A table is the list of its entries in order of their
keys (by bytes); `Value.at?` reads the value at a path of keys and `merge` lays one table over
another: tables merge entry by entry, any other value replaces what was there.
-/

set_option autoImplicit false

namespace Egress.Document

/-- A value of a document. -/
inductive Value where
  | text (s : String)
  | integer (n : Int)
  | float (x : Float)
  | boolean (b : Bool)
  /-- A date, a time or both, in canonical form. -/
  | datetime (s : String)
  | list (items : List Value)
  | table (entries : List (String × Value))

instance : Inhabited Value := ⟨.table []⟩

/-- Entries of a table, in order of their keys. -/
abbrev Table := List (String × Value)

/-- Shape of a value, as far as directories care. -/
inductive Shape where
  | scalar
  | list
  | table
  deriving DecidableEq, Repr

/-- The word for a shape. -/
def Shape.label : Shape → String
  | .scalar => "value"
  | .list => "list"
  | .table => "table"

namespace Value

/-- The value's shape. -/
def shape : Value → Shape
  | .list _ => .list
  | .table _ => .table
  | _ => .scalar

/-- The value under a key, when this is a table. -/
def child? (key : String) : Value → Option Value
  | .table es => Keyed.get? key es
  | _ => none

/-- The value at a path of keys. -/
def at? : Value → List String → Option Value
  | v, [] => some v
  | v, k :: path => (v.child? k).bind (at? · path)

/-- Text of a text, number or boolean. -/
def scalarText? : Value → Option String
  | .text s => some s
  | .integer n => some (toString n)
  | .float x => some (Decimal.shortest x)
  | .boolean b => some (if b then "true" else "false")
  | _ => none

/-- Texts of a list's scalars, or of the scalar itself. -/
def texts : Value → List String
  | .list items => items.filterMap scalarText?
  | v => v.scalarText?.toList

/-- Keys of a table, in order. -/
def keys : Value → List String
  | .table es => Keyed.keys es
  | _ => []

@[simp] theorem at?_nil (v : Value) : v.at? [] = some v := by
  cases v <;> rfl

theorem at?_cons (v : Value) (k : String) (path : List String) :
    v.at? (k :: path) = (v.child? k).bind (at? · path) := rfl

@[simp] theorem at?_singleton (v : Value) (k : String) : v.at? [k] = v.child? k := by
  rw [at?_cons]
  cases v.child? k <;> simp

theorem at?_append (v : Value) (p q : List String) :
    v.at? (p ++ q) = (v.at? p).bind (at? · q) := by
  induction p generalizing v with
  | nil => simp
  | cons k p ih =>
    simp only [List.cons_append, at?]
    cases v.child? k with
    | none => rfl
    | some w => simpa using ih w

end Value

mutual

/-- A value laid over what was there. -/
def overlay (old : Option Value) : Value → Value
  | .table incoming => match old with
    | some (.table existing) => .table (merge existing incoming)
    | _ => .table incoming
  | v => v

/-- A table laid over another. -/
def merge (base : Table) : Table → Table
  | [] => base
  | (k, v) :: rest => merge (Keyed.insert k (overlay (Keyed.get? k base) v) base) rest

end

end Egress.Document
