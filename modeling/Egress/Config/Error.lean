import Egress.Document.Value
import Egress.Fault
import Egress.Text.Quoted

/-!
# What can be wrong with a configuration

`FieldError` is a fault in one of the declared fields, `ConfigError` any fault of a configuration or
of a question about the directories built from it. `message` is the wording of each.
-/

set_option autoImplicit false

namespace Egress

open Document

/-- What is wrong with the value of a field. -/
inductive Mismatch where
  /-- A value of another type than expected. -/
  | type (found : Value) (expected : String)
  /-- A number out of the range of the expected type. -/
  | range (found : Int) (expected : String)
  /-- A list with more items than there are fields. -/
  | tooLong (length : Nat)
  /-- Two entries for one field. -/
  | duplicate (field : String)
  /-- A text that is no octal number of 32 bits. -/
  | fileMode (found : String)
  /-- Neither a text nor a number of 32 bits. -/
  | noFileMode

/-- A float as messages show it: with a fraction, if it is finite. -/
def floatText (x : Float) : String :=
  let s := Decimal.shortest x
  if s.contains '.' || s = "inf" || s = "-inf" || s = "NaN" then s else s ++ ".0"

/-- A value as messages show it. -/
def foundText : Value → String
  | .text s => "string " ++ Text.quote s
  | .datetime s => "string " ++ Text.quote s
  | .integer n => "integer `" ++ toString n ++ "`"
  | .float x => "floating point `" ++ floatText x ++ "`"
  | .boolean b => "boolean `" ++ (if b then "true" else "false") ++ "`"
  | .list _ => "sequence"
  | .table _ => "map"

/-- The wording of a mismatch. -/
def Mismatch.message : Mismatch → String
  | .type found expected => "invalid type: " ++ foundText found ++ ", expected " ++ expected
  | .range found expected =>
    "invalid value: integer `" ++ toString found ++ "`, expected " ++ expected
  | .tooLong length =>
    "invalid length " ++ toString length ++ ", expected fewer elements in array"
  | .duplicate field => "duplicate field `" ++ field ++ "`"
  | .fileMode found => "invalid file mode: " ++ found
  | .noFileMode => "data did not match any variant of untagged enum Raw"

/-- A fault in a field: the keys that lead to it and what is wrong there. -/
structure FieldError where
  path : List String
  mismatch : Mismatch

/-- The same fault seen from one table further out. -/
def FieldError.within (key : String) (e : FieldError) : FieldError :=
  ⟨key :: e.path, e.mismatch⟩

/-- The wording of a fault in a field, two lines when it has a path. -/
def FieldError.message (e : FieldError) : String :=
  e.mismatch.message ++ "\n"
    ++ if e.path.isEmpty then "" else "in `" ++ ".".intercalate e.path ++ "`\n"

/-- What can be wrong with a configuration. -/
inductive ConfigError where
  | notFound (path : String)
  | unreadable (fault : Fault)
  /-- The text is no document from this line on. -/
  | malformed (line : Nat)
  | field (e : FieldError)
  | missing (path : String)
  | unknownVendor (vendor : String)
  | unsupportedDepth (vendor : String) (levels : Nat)
  | unsupportedMode (mode : String)
  /-- A table where the server list should be. -/
  | tableForServers (path : List String)
  /-- Something else where a level's table should be. -/
  | noTableFor (path : List String) (level : String) (found : Shape)
  /-- A server list that is not where it was put. -/
  | lostLeaf (vendor : String) (path : List String)
  /-- No node of the directory at this path. -/
  | noNode (path : List String)
  /-- No server list of the directory at this path. -/
  | noServers (path : List String)

/-- How many levels a vendor may declare. -/
def maxLevels : Nat := 5

/-- The wording of a text that is no document. -/
def malformedText (line : Nat) : String :=
  "TOML parse error at line " ++ toString line

/-- The wording of a configuration fault. -/
def ConfigError.message : ConfigError → String
  | .notFound path => "Config file not found: " ++ path
  | .unreadable fault => "Invalid config: Failed to read config: " ++ fault.message
  | .malformed line => "TOML parse error: " ++ malformedText line
  | .field e => "TOML parse error: " ++ e.message
  | .missing path => "Missing required field: " ++ path
  | .unknownVendor vendor => vendor ++ " vendor is not defined"
  | .unsupportedDepth vendor levels =>
    "Invalid number of vendor levels for " ++ vendor ++ ": " ++ toString levels
      ++ " (max " ++ toString maxLevels ++ ")"
  | .unsupportedMode mode => "Unsupported router mode: " ++ mode
  | .tableForServers path =>
    "Invalid config: " ++ ".".intercalate path ++ ": expected a server list, found a table"
  | .noTableFor path level found =>
    "Invalid config: " ++ ".".intercalate path ++ ": expected a table of " ++ level
      ++ ", found a " ++ found.label
  | .lostLeaf vendor path =>
    "Invalid config: " ++ vendor ++ ": lost leaf " ++ ".".intercalate path
  | .noNode path => "Invalid config: Invalid path: " ++ ".".intercalate path
  | .noServers path => "Invalid config: Unable to locate servers at: " ++ ".".intercalate path

/-- The wordings of what lies behind a configuration fault. -/
def ConfigError.causes : ConfigError → List String
  | .malformed line => [malformedText line]
  | .field e => [e.message]
  | _ => []

end Egress
