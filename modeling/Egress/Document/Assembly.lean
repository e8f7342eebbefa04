import Egress.Document.Scalar

/-!
# Assembling a document

A document is a sequence of statements: key-value pairs and headers of tables and lists of tables.
While it is put together each table remembers how it came to be, since that decides what may still
be added: a table with a header of its own is closed to dotted keys and to a second header, one
that only a longer header implied may get its header later, one that a dotted key made may get more
dotted keys. A value that is written out (also an inline table) is closed altogether.

A table inside the document whose first key is `datetimeKey` is no table but the date or time that
this key's text denotes.
-/

set_option autoImplicit false

namespace Egress.Document

/-- How a table came to be. -/
inductive Origin where
  | header
  | implied
  | dotted
  deriving DecidableEq

/-- An entry of a document under construction. -/
inductive Item where
  | value (v : Value)
  | table (origin : Origin) (entries : List (String × Item))
  /-- Tables of a list with headers, the last one first. -/
  | tables (last : List (String × Item)) (before : List (List (String × Item)))

/-- Entries of a table under construction. -/
abbrev Items := List (String × Item)

/-- The first key of a table that stands for a date or a time. -/
def datetimeKey : String := "$__toml_private_datetime"

/-- The date or time that a text denotes as a whole. -/
def datetime? (text : String) : Option Value :=
  match dateTime? text.toList with
  | some (s, []) => some (.datetime s)
  | _ => match time? text.toList with
    | some (s, []) => some (.datetime s)
    | _ => none

mutual

/-- The finished value of an entry, unless it should be a date or time and is not. -/
def Item.close? : Item → Option Value
  | .value v => some v
  | .table _ es => closeTable? es
  | .tables last before => do
    let before ← closeTables? before
    let last ← closeTable? last
    some (.list (before.reverse ++ [last]))

/-- The finished value of a table. -/
def closeTable? : List (String × Item) → Option Value
  | [] => some (.table [])
  | (k, i) :: rest =>
    if k = datetimeKey then
      match i with
      | .value (.text s) => datetime? s
      | _ => none
    else do
      let v ← i.close?
      let es ← closeEntries? rest
      some (.table (Keyed.insert k v es))

/-- The finished entries of a table. -/
def closeEntries? : List (String × Item) → Option Table
  | [] => some []
  | (k, i) :: rest => do
    let v ← i.close?
    let es ← closeEntries? rest
    some (Keyed.insert k v es)

/-- The finished tables of a list. -/
def closeTables? : List (List (String × Item)) → Option (List Value)
  | [] => some []
  | es :: rest => do
    let v ← closeTable? es
    let vs ← closeTables? rest
    some (v :: vs)

end

/-- Adds `path.key = value` to a table; `accepts` tells whether the key itself may be added to the
table reached when the path is used up. -/
def addDotted (key : String) (value : Value) : Bool → List String → Items → Option Items
  | accepts, [], es =>
    if accepts && !Keyed.mem key es then some (Keyed.set key (.value value) es) else none
  | _, k :: path, es =>
    match Keyed.get? k es with
    | none => (addDotted key value true path []).map fun es' => Keyed.set k (.table .dotted es') es
    | some (.table .header _) => none
    | some (.table origin inner) =>
      (addDotted key value (origin = .dotted) path inner).map fun es' =>
        Keyed.set k (.table origin es') es
    | some (.tables last before) =>
      (addDotted key value false path last).map fun es' => Keyed.set k (.tables es' before) es
    | some (.value _) => none

/-- Changes the table that a header's path leads to, making the tables it implies; in a list of
tables the path goes through the last one. -/
def under (change : Items → Option Items) : List String → Items → Option Items
  | [], es => change es
  | k :: path, es =>
    match Keyed.get? k es with
    | none => (under change path []).map fun es' => Keyed.set k (.table .implied es') es
    | some (.table origin inner) =>
      (under change path inner).map fun es' => Keyed.set k (.table origin es') es
    | some (.tables last before) =>
      (under change path last).map fun es' => Keyed.set k (.tables es' before) es
    | some (.value _) => none

/-- Opens the table `key`, which then comes after its neighbours. -/
def openTable (key : String) (es : Items) : Option Items :=
  match Keyed.get? key es with
  | none => some (Keyed.set key (.table .header []) es)
  | some (.table .implied inner) =>
    some (Keyed.set key (.table .header inner) (Keyed.erase key es))
  | _ => none

/-- Opens one more table of the list `key`. -/
def openNext (key : String) (es : Items) : Option Items :=
  match Keyed.get? key es with
  | none => some (Keyed.set key (.tables [] []) es)
  | some (.tables last before) => some (Keyed.set key (.tables [] (last :: before)) es)
  | _ => none

/-- A statement of a document. -/
inductive Statement where
  | pair (path : List String) (key : String) (value : Value)
  | header (path : List String) (key : String)
  | nextHeader (path : List String) (key : String)

/-- A document under construction: its entries and the path of the table that pairs go to. -/
structure Draft where
  items : Items
  current : List String

/-- The draft with no statements. -/
def Draft.empty : Draft := ⟨[], []⟩

/-- Adds a statement, unless it repeats or contradicts what is there. -/
def Draft.add? (d : Draft) : Statement → Option Draft
  | .pair path key value =>
    (under (addDotted key value true path) d.current d.items).map fun es => ⟨es, d.current⟩
  | .header path key =>
    (under (openTable key) path d.items).map fun es => ⟨es, path ++ [key]⟩
  | .nextHeader path key =>
    (under (openNext key) path d.items).map fun es => ⟨es, path ++ [key]⟩

/-- The finished document. -/
def Draft.close? (d : Draft) : Option Table :=
  closeEntries? d.items

end Egress.Document
