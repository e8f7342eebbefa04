import Egress.Config.Settings
import Egress.Text.Numeral

/-!
# Settings as document values

`Settings.ofValue` reads the settings off a document value and `Settings.toValue` writes them. A
group of fields is a table (or a list of the fields' values in order); entries it does not declare
are ignored, fields without an entry keep their defaults, and of several faulty entries the first
in the table's order is reported.
-/

set_option autoImplicit false

namespace Egress

open Document

/-- A fault at the value itself. -/
def mismatch {α : Type} (m : Mismatch) : Except FieldError α :=
  .error ⟨[], m⟩

/-! ## Values of fields -/

/-- A text, or the text of a date. -/
def readText : Value → Except FieldError String
  | .text s => .ok s
  | .datetime s => .ok s
  | v => mismatch (.type v "a string")

/-- A list of texts. -/
def readTexts : Value → Except FieldError (List String)
  | .list items => items.mapM readText
  | v => mismatch (.type v "a sequence")

/-- An integer of 64 bits. -/
def readInteger : Value → Except FieldError Int
  | .integer n => .ok n
  | v => mismatch (.type v "i64")

/-- A number below a bound, named by its type in messages. -/
def readNatural (expected : String) (bound : Nat) : Value → Except FieldError Nat
  | .integer n => if 0 ≤ n && n < bound then .ok n.toNat else mismatch (.range n expected)
  | v => mismatch (.type v expected)

/-- Numbers of 16 bits lie below this. -/
def bound16 : Nat := 0x10000

/-- Numbers of 32 bits lie below this. -/
def bound32 : Nat := 0x100000000

/-- Numbers of 64 bits lie below this. -/
def bound64 : Nat := 0x10000000000000000

/-- Permission bits: an octal text or the number itself. -/
def readFileMode : Value → Except FieldError Nat
  | .integer n => if 0 ≤ n && n < bound32 then .ok n.toNat else mismatch .noFileMode
  | .text s => ofText s
  | .datetime s => ofText s
  | _ => mismatch .noFileMode
where
  ofText (s : String) : Except FieldError Nat :=
    match Text.octal? (Text.trim s.toList) with
    | some n => .ok n
    | none => mismatch (.fileMode s)

/-! ## Groups of fields -/

/-- A field of a group: its key, further spellings of the key, and how its value is taken over. -/
structure Field (σ : Type) where
  key : String
  spellings : List String := []
  read : Value → σ → Except FieldError σ

namespace Field

variable {σ : Type}

/-- Whether the field answers to a key. -/
def answers (f : Field σ) (key : String) : Bool :=
  f.key = key || f.spellings.contains key

/-- Takes over the entries of a table; `seen` are the fields that had one already. -/
def readEntries (fields : List (Field σ)) : List String → σ → Table → Except FieldError σ
  | _, s, [] => .ok s
  | seen, s, (k, v) :: rest =>
    match fields.find? (·.answers k) with
    | none => readEntries fields seen s rest
    | some f =>
      if seen.contains f.key then mismatch (.duplicate f.key)
      else match f.read v s with
        | .error e => .error (e.within k)
        | .ok s => readEntries fields (f.key :: seen) s rest

/-- Takes over the items of a list, one a field; `length` is that of the whole list. -/
def readItems (length : Nat) : List (Field σ) → σ → List Value → Except FieldError σ
  | _, s, [] => .ok s
  | [], _, _ :: _ => mismatch (.tooLong length)
  | f :: fields, s, v :: rest =>
    match f.read v s with
    | .error e => .error e
    | .ok s => readItems length fields s rest

/-- Takes over a group of fields; `group` names it in messages. -/
def readGroup (group : String) (fields : List (Field σ)) (s : σ) : Value → Except FieldError σ
  | .table es => readEntries fields [] s es
  | .list items => readItems items.length fields s items
  | v => mismatch (.type v ("struct " ++ group))

end Field

/-- Fields of the health check. -/
def CheckSettings.fields : List (Field CheckSettings) :=
  [{ key := "command", read := fun v s => (readText v).map fun x => { s with command := x } },
   { key := "match", read := fun v s => (readText v).map fun x => { s with pattern := x } }]

/-- The health check of a value. -/
def CheckSettings.ofValue : Value → Except FieldError CheckSettings :=
  Field.readGroup "CheckConfig" fields {}

/-- Fields of the listener. -/
def ListenSettings.fields : List (Field ListenSettings) :=
  [{ key := "address", read := fun v s => (readText v).map fun x => { s with address := x } },
   { key := "http", read := fun v s => (readInteger v).map fun x => { s with http := x } },
   { key := "https", read := fun v s => (readInteger v).map fun x => { s with https := x } },
   { key := "username"
     read := fun v s => (readText v).map fun x => { s with username := some x } },
   { key := "password"
     read := fun v s => (readText v).map fun x => { s with password := some x } }]

/-- The listener of a value. -/
def ListenSettings.ofValue : Value → Except FieldError ListenSettings :=
  Field.readGroup "ListenConfig" fields {}

/-- Fields of the router. -/
def RouterSettings.fields : List (Field RouterSettings) :=
  [{ key := "mode", read := fun v s => (readText v).map fun x => { s with mode := x } },
   { key := "config_file"
     read := fun v s => (readText v).map fun x => { s with configFile := x } },
   { key := "config_mode"
     read := fun v s => (readFileMode v).map fun x => { s with configMode := x } },
   { key := "start_command"
     read := fun v s => (readText v).map fun x => { s with startCommand := x } },
   { key := "stop_command"
     read := fun v s => (readText v).map fun x => { s with stopCommand := x } },
   { key := "status_command"
     read := fun v s => (readText v).map fun x => { s with statusCommand := x } },
   { key := "check"
     read := fun v s => (CheckSettings.ofValue v).map fun x => { s with check := x } },
   { key := "wait_seconds"
     read := fun v s => (readNatural "u64" bound64 v).map fun x => { s with waitSeconds := x } },
   { key := "host", read := fun v s => (readText v).map fun x => { s with host := x } },
   { key := "port"
     read := fun v s => (readNatural "u16" bound16 v).map fun x => { s with port := x } },
   { key := "user", spellings := ["username"]
     read := fun v s => (readText v).map fun x => { s with user := x } },
   { key := "password"
     read := fun v s => (readText v).map fun x => { s with password := some x } }]

/-- The router of a value. -/
def RouterSettings.ofValue : Value → Except FieldError RouterSettings :=
  Field.readGroup "RouterConfig" fields {}

/-- Fields of the settings. -/
def Settings.fields : List (Field Settings) :=
  [{ key := "vendors", read := fun v s => (readTexts v).map fun x => { s with vendors := x } },
   { key := "refresh_interval"
     read := fun v s =>
       (readNatural "u64" bound64 v).map fun x => { s with refreshInterval := x } },
   { key := "listen"
     read := fun v s => (ListenSettings.ofValue v).map fun x => { s with listen := x } },
   { key := "router"
     read := fun v s => (RouterSettings.ofValue v).map fun x => { s with router := x } }]

/-- The settings of a value. -/
def Settings.ofValue : Value → Except FieldError Settings :=
  Field.readGroup "AppConfig" fields {}

/-! ## Writing -/

/-- The entry of an optional text, left out when there is none. -/
def optionalEntry (key : String) : Option String → Table
  | some s => [(key, .text s)]
  | none => []

/-- The health check as a table. -/
def CheckSettings.toTable (s : CheckSettings) : Table :=
  Keyed.ordered [("command", .text s.command), ("match", .text s.pattern)]

/-- The listener as a table. -/
def ListenSettings.toTable (s : ListenSettings) : Table :=
  Keyed.ordered
    ([("address", .text s.address), ("http", .integer s.http), ("https", .integer s.https)]
      ++ optionalEntry "username" s.username ++ optionalEntry "password" s.password)

/-- The router as a table. -/
def RouterSettings.toTable (s : RouterSettings) : Table :=
  Keyed.ordered
    ([("mode", .text s.mode), ("config_file", .text s.configFile),
      ("config_mode", .text (Text.octal s.configMode)), ("start_command", .text s.startCommand),
      ("stop_command", .text s.stopCommand), ("status_command", .text s.statusCommand),
      ("check", .table s.check.toTable), ("wait_seconds", .integer s.waitSeconds),
      ("host", .text s.host), ("port", .integer s.port), ("user", .text s.user)]
      ++ optionalEntry "password" s.password)

/-- The settings as a table. -/
def Settings.toTable (s : Settings) : Table :=
  Keyed.ordered
    [("vendors", .list (s.vendors.map .text)), ("refresh_interval", .integer s.refreshInterval),
     ("listen", .table s.listen.toTable), ("router", .table s.router.toTable)]

/-- The settings as a value. -/
def Settings.toValue (s : Settings) : Value :=
  .table s.toTable

end Egress
