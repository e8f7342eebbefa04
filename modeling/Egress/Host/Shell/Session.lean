import Egress.Host.FileStore.Change
import Egress.Host.Program.Basic
import Egress.Host.Shell.Command

/-!
# Running shells

The state of a shell: the machine's files, the streams that its descriptors lead to, its arguments,
variables and functions. Several descriptors can lead to one stream. `Run` is what a command does to
the state; it can be left early (`Escape`), and then the state stays as it was left.
-/

set_option autoImplicit false

namespace Egress.Host.Shell

/-! ## Streams -/

/-- What a descriptor leads to. -/
inductive Stream where
  /-- What was written is kept. -/
  | kept (bytes : List UInt8)
  /-- Bytes that are still to be read. -/
  | supply (bytes : List UInt8)
  /-- A file from an offset on, or always at its end. -/
  | file (l : Location) (offset : Nat) (atEnd : Bool)
  | nowhere
  deriving DecidableEq

/-! ## Variables -/

/-- A variable: its value, whether started programs get it, and whether it stays as it is. -/
structure Variable where
  value : Option String := none
  exported : Bool := false
  fixed : Bool := false
  deriving DecidableEq, Repr

/-- A running shell. Texts in it are texts of bytes. -/
structure Session where
  files : FileStore
  streams : List Stream
  /-- The streams that descriptors lead to. -/
  descriptors : List (Nat × Nat)
  /-- How the shell calls itself in complaints. -/
  name : String := "sh"
  /-- Number of the shell's process. -/
  process : Nat
  arguments : List String := []
  bindings : List (String × Variable) := []
  functions : List (String × Command) := []
  /-- Letters of the options that are set. -/
  options : List Char := []
  /-- Status of the last command. -/
  status : Nat := 0
  /-- Status of the last command whose output was used. -/
  outputStatus : Nat := 0
  /-- Line of the command that runs. -/
  line : Nat := 1
  /-- Name of the shell's own command that runs, if one does. -/
  builtin : Option String := none
  /-- Whether the failure of that command is looked at. -/
  tested : Bool := false
  /-- Whether something that was written to its output is lost. -/
  lost : Bool := false
  /-- Line that reading has come to. -/
  reached : Nat := 1
  /-- Loops that the command stands in. -/
  loops : Nat := 0
  /-- For each function that runs, the variables to be given back. -/
  frames : List (List (String × Option Variable)) := []
  /-- Scripts that signals, and the shell's end, start. -/
  traps : List (String × String) := []
  /-- Numbers of processes in the background, the last one first, with their statuses. -/
  background : List (Nat × Nat) := []
  /-- Characters of the argument that were looked at for options. -/
  optionOffset : Nat := 0

/-- Why commands are left early. -/
inductive Escape where
  /-- Leaves so many loops, and goes on with the last of them if `again`. -/
  | leave (levels : Nat) (again : Bool)
  | returned
  | exited
  /-- Ends the shell after a complaint, unless a command was running that may fail. -/
  | failed
  | killed (signal : Nat)
  deriving DecidableEq, Repr

/-- What a command does to the shell. -/
abbrev Run := ExceptT Escape (StateM Session)

namespace Session

/-- Value of a variable. -/
def value? (s : Session) (name : String) : Option String :=
  (Keyed.get? name s.bindings).bind (·.value)

/-- Gives a variable a value, whether it is fixed or not. -/
def bind (s : Session) (name value : String) : Session :=
  let old := (Keyed.get? name s.bindings).getD {}
  let exported := old.exported || s.options.contains 'a'
  { s with bindings := Keyed.set name { old with value := some value, exported } s.bindings }

/-- Whether a variable stays as it is. -/
def isFixed (s : Session) (name : String) : Bool :=
  match Keyed.get? name s.bindings with
  | some v => v.fixed
  | none => false

/-- Whether the option of a letter is set. -/
def has (s : Session) (letter : Char) : Bool :=
  s.options.contains letter

/-- Names that were given to a variable's values inside the innermost function. -/
def remember (s : Session) (name : String) : Session :=
  match s.frames with
  | frame :: rest =>
    if Keyed.mem name frame then s
    else { s with frames := (frame ++ [(name, Keyed.get? name s.bindings)]) :: rest }
  | [] => s

/-- Gives variables back what they were. -/
def restore (s : Session) (frame : List (String × Option Variable)) : Session :=
  frame.foldl (fun s (name, old) =>
    { s with bindings := match old with
        | some v => Keyed.set name v s.bindings
        | none => Keyed.erase name s.bindings }) s

/-- Variables that started programs get. -/
def environment (s : Session) : List (String × Variable) :=
  (s.bindings.filter fun (_, v) => v.exported && v.value.isSome).map fun (name, v) =>
    (name, { v with fixed := false })

/-! ## Streams of descriptors -/

/-- The stream that a descriptor leads to, and its place. -/
def stream? (s : Session) (descriptor : Nat) : Option (Nat × Stream) := do
  let i ← Keyed.get? descriptor s.descriptors
  let stream ← s.streams[i]?
  return (i, stream)

/-- Puts a stream in the place of another. -/
def setStream (s : Session) (i : Nat) (stream : Stream) : Session :=
  { s with streams := s.streams.set i stream }

/-- Adds a stream; gives its place. -/
def addStream (s : Session) (stream : Stream) : Nat × Session :=
  (s.streams.length, { s with streams := s.streams ++ [stream] })

/-- Lets a descriptor lead to a place, or nowhere at all. -/
def setDescriptor (s : Session) (descriptor : Nat) : Option Nat → Session
  | some i => { s with descriptors := Keyed.set descriptor i s.descriptors }
  | none => { s with descriptors := Keyed.erase descriptor s.descriptors }

/-- Bytes with others put over them from an offset on. -/
def overlay (content bytes : List UInt8) (offset : Nat) : List UInt8 :=
  let before := content.take offset
  before ++ List.replicate (offset - before.length) 0 ++ bytes
    ++ content.drop (offset + bytes.length)

/-- Writes bytes to a descriptor; false if it leads to nothing that can be written. -/
def write (s : Session) (descriptor : Nat) (bytes : List UInt8) : Bool × Session :=
  match s.stream? descriptor with
  | some (i, .kept old) => (true, s.setStream i (.kept (old ++ bytes)))
  | some (_, .nowhere) => (true, s)
  | some (i, .file l offset atEnd) =>
    match s.files.entry? l with
    | some (.file content mode) =>
      let offset := if atEnd then content.length else offset
      let files := s.files.put l (.file (overlay content bytes offset) mode)
      (true, { s with files }.setStream i (.file l (offset + bytes.length) atEnd))
    | _ => (true, s)
  | _ => (bytes.isEmpty, s)

/-- Bytes that a descriptor can still be read for. -/
def available (s : Session) (descriptor : Nat) : List UInt8 :=
  match s.stream? descriptor with
  | some (_, .supply bytes) => bytes
  | some (_, .file l offset _) =>
    match s.files.entry? l with
    | some (.file content _) => content.drop offset
    | _ => []
  | _ => []

/-- Goes past bytes that a descriptor is read for. -/
def consume (s : Session) (descriptor count : Nat) : Session :=
  match s.stream? descriptor with
  | some (i, .supply bytes) => s.setStream i (.supply (bytes.drop count))
  | some (i, .file l offset atEnd) => s.setStream i (.file l (offset + count) atEnd)
  | _ => s

end Session

namespace Run

/-- Writes a text to a descriptor. -/
def write (descriptor : Nat) (text : String) : Run Unit := do
  let (kept, s) := (← get).write descriptor (Text.Raw.toBytes text)
  set { s with lost := s.lost || (!kept && descriptor = 1) }

/-- Sets the status. -/
def finish (status : Nat) : Run Unit :=
  modify fun s => { s with status }

/-- Complains about the command that runs. -/
def complain (text : String) : Run Unit := do
  let s ← get
  let command := match s.builtin with
    | some name => name ++ ": "
    | none => ""
  write 2 (s.name ++ ": " ++ toString s.line ++ ": " ++ command ++ text ++ "\n")

/-- Complains and gives up. -/
def abort {α : Type} (text : String) : Run α := do
  complain text
  finish 2
  throw .failed

/-- Gives a variable a value, unless it is fixed. -/
def assign (name value : String) : Run Unit := do
  if (← get).isFixed name then abort (name ++ ": is read only")
  modify (·.bind name value)

/-- Shows what a program wrote, and takes its status. -/
def deliver (o : Outcome) : Run Unit := do
  let (kept, s) := (← get).write 1 o.output
  let (_, s) := s.write 2 o.errors
  set { s with status := o.status.getD 0, lost := s.lost || !kept }

end Run

end Egress.Host.Shell
