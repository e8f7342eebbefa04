import Egress.Config.Decode
import Egress.Document.Reader
import Egress.Text.Piece

/-!
# Configurations

A configuration is a document value. Its values are read by dotted path (`string?`, `strings`,
`keys`, `integer?`, `flag`) or by one key a segment (`shapeAt?`, `stringsAt`, `keysAt`), which also
reaches keys that hold a dot. A text is laid over the built-in defaults (`parse`).
-/

set_option autoImplicit false

namespace Egress

open Document

/-- The keys of a dotted path; the empty path has none. -/
def segments (path : String) : List String :=
  if path = "" then [] else (Text.pieces '.' path.toList).map String.ofList

/-- A configuration. -/
structure Config where
  root : Value

namespace Config

/-- The value at a dotted path. -/
def get? (c : Config) (path : String) : Option Value :=
  c.root.at? (segments path)

/-- Whether there is a value at a dotted path. -/
def mem (c : Config) (path : String) : Bool :=
  (c.get? path).isSome

/-- Text of the scalar at a dotted path. -/
def string? (c : Config) (path : String) : Option String :=
  (c.get? path).bind Value.scalarText?

/-- Texts of the list (or of the one scalar) at a dotted path. -/
def strings (c : Config) (path : String) : List String :=
  ((c.get? path).map Value.texts).getD []

/-- Keys of the table at a dotted path, in order. -/
def keys (c : Config) (path : String) : List String :=
  ((c.get? path).map Value.keys).getD []

/-- The integer at a dotted path, also when it is written as a text. -/
def integer? (c : Config) (path : String) : Option Int :=
  match c.get? path with
  | some (.integer n) => some n
  | some (.text s) => Text.integer? (Text.trim s.toList)
  | _ => none

/-- The truth value at a dotted path; also the texts `true`, `yes` and `1` are true. -/
def flag (c : Config) (path : String) : Bool :=
  match c.get? path with
  | some (.boolean b) => b
  | some (.text s) => s = "true" || s = "yes" || s = "1"
  | _ => false

/-- Shape of the value at a path of keys. -/
def shapeAt? (c : Config) (path : List String) : Option Shape :=
  (c.root.at? path).map Value.shape

/-- Texts of the list (or of the one scalar) at a path of keys. -/
def stringsAt (c : Config) (path : List String) : List String :=
  ((c.root.at? path).map Value.texts).getD []

/-- Keys of the table at a path of keys, in order. -/
def keysAt (c : Config) (path : List String) : List String :=
  ((c.root.at? path).map Value.keys).getD []

/-- Names of the vendors, as configured. -/
def vendors (c : Config) : List String :=
  c.strings "vendors"

/-- The settings. -/
def settings (c : Config) : Except ConfigError Settings :=
  (Settings.ofValue c.root).mapError .field

/-- Path of a vendor's configuration template. -/
def template? (c : Config) (vendor : String) : Option String :=
  c.string? (vendor ++ ".config_template")

/-- Paths of the vendors' configuration templates, for those that have one. -/
def templates (c : Config) (vendors : List String) : List (String × String) :=
  vendors.foldl (fun acc v => match c.template? v with
    | some path => Keyed.set v path acc
    | none => acc) []

/-! ## Loading -/

/-- Built-in values of the listener. -/
def defaultListen : Table :=
  [("address", .text "0.0.0.0"), ("http", .integer 8000), ("https", .integer (-1))]

/-- Built-in values of the router. -/
def defaultRouter : Table :=
  [("host", .text "192.168.1.1"), ("mode", .text "ssh"), ("port", .integer 22),
   ("user", .text "admin")]

/-- The built-in document. -/
def defaultTable : Table :=
  [("listen", .table defaultListen), ("router", .table defaultRouter)]

/-- The built-in configuration. -/
def defaults : Config :=
  ⟨.table defaultTable⟩

/-- The router's entries with `username` as a second spelling of `user`. -/
def respellRouter (router : Table) : Table :=
  if Keyed.mem "user" router then router
  else match Keyed.get? "username" router with
    | some user => Keyed.insert "user" user (Keyed.erase "username" router)
    | none => router

/-- A document with the second spelling in its router table replaced by the first. -/
def respell (document : Table) : Table :=
  match Keyed.get? "router" document with
  | some (.table router) => Keyed.insert "router" (.table (respellRouter router)) document
  | _ => document

/-- A document laid over the built-in one. -/
def overDefaults (document : Table) : Config :=
  ⟨.table (merge defaultTable (respell document))⟩

/-- The configuration a text denotes. -/
def parse (text : String) : Except ConfigError Config :=
  match read text with
  | .ok document => .ok (overDefaults document)
  | .error line => .error (.malformed line)

end Config

end Egress
