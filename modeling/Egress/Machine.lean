import Egress.Fault
import Egress.Host.Program.Basic
import Egress.Note
import Egress.Procedure

/-!
# Machines

What the program asks of the machine it runs on: files, programs, connections, time, and the two
streams it writes to.
-/

set_option autoImplicit false

namespace Egress

/-- A stream to write to. -/
inductive Stream where
  | output
  | errors
  deriving DecidableEq, Repr

/-- Why the program was asked to end. -/
inductive Signal where
  | interrupt
  | terminate
  deriving DecidableEq, Repr

namespace Machine

/-- What the program asks for. -/
inductive Request where
  /-- Whether something stands at the end of a path. -/
  | has (path : String)
  /-- Whether a file stands at the end of a path. -/
  | isFile (path : String)
  | readText (path : String)
  /-- Make an empty file in a directory, for its owner only; the reply is its path. -/
  | create (dir : String)
  /-- Write text at the end of a file. -/
  | append (path content : String)
  /-- Hand over what was written to a file and is still held back. -/
  | flush (path : String)
  | setMode (path : String) (mode : Nat)
  | rename (source destination : String)
  | remove (path : String)
  /-- Run a program to its end. -/
  | spawn (program : String) (args : List String)
  /-- Open a connection; the reply says why there is none. -/
  | connect (address : String)
  /-- Wait a second. -/
  | pause
  /-- Wait until asked to end, for some milliseconds at most. -/
  | awaitSignal (ms : Nat)
  | say (stream : Stream) (text : String)
  | note (n : Note)
  /-- The time, as notes show it. -/
  | time

/-- The replies. -/
@[reducible] def Reply : Request → Type
  | .has _ => Bool
  | .isFile _ => Bool
  | .readText _ => Except Fault String
  | .create _ => Except Fault String
  | .append .. => Except Fault Unit
  | .flush _ => Except Fault Unit
  | .setMode .. => Except Fault Unit
  | .rename .. => Except Fault Unit
  | .remove _ => Unit
  | .spawn .. => Except Fault Host.Outcome
  | .connect _ => Fault
  | .pause => Unit
  | .awaitSignal _ => Option Signal
  | .say .. => Unit
  | .note _ => Unit
  | .time => String

end Machine

/-- What a machine can be asked for. -/
abbrev Machine : Interface := ⟨Machine.Request, Machine.Reply⟩

namespace Machine

/-- Whether something stands at the end of a path. -/
def has (path : String) : Procedure Machine Bool :=
  .perform (S := Machine) (.has path)

/-- Whether a file stands at the end of a path. -/
def isFile (path : String) : Procedure Machine Bool :=
  .perform (S := Machine) (.isFile path)

/-- Reads a file that holds text. -/
def readText (path : String) : Procedure Machine (Except Fault String) :=
  .perform (S := Machine) (.readText path)

/-- Makes an empty file in a directory. -/
def create (dir : String) : Procedure Machine (Except Fault String) :=
  .perform (S := Machine) (.create dir)

/-- Writes text at the end of a file. -/
def append (path content : String) : Procedure Machine (Except Fault Unit) :=
  .perform (S := Machine) (.append path content)

/-- Hands over what was written to a file. -/
def flush (path : String) : Procedure Machine (Except Fault Unit) :=
  .perform (S := Machine) (.flush path)

/-- Changes a file's permission bits. -/
def setMode (path : String) (mode : Nat) : Procedure Machine (Except Fault Unit) :=
  .perform (S := Machine) (.setMode path mode)

/-- Lets a file take the place of another. -/
def rename (source destination : String) : Procedure Machine (Except Fault Unit) :=
  .perform (S := Machine) (.rename source destination)

/-- Removes a file, if it is there. -/
def remove (path : String) : Procedure Machine Unit :=
  .perform (S := Machine) (.remove path)

/-- Runs a program to its end. -/
def spawn (program : String) (args : List String) : Procedure Machine (Except Fault Host.Outcome) :=
  .perform (S := Machine) (.spawn program args)

/-- Tries to open a connection. -/
def connect (address : String) : Procedure Machine Fault :=
  .perform (S := Machine) (.connect address)

/-- Waits a second. -/
def pause : Procedure Machine Unit :=
  .perform (S := Machine) .pause

/-- Waits until asked to end, for some milliseconds at most. -/
def awaitSignal (ms : Nat) : Procedure Machine (Option Signal) :=
  .perform (S := Machine) (.awaitSignal ms)

/-- Writes to a stream. -/
def say (stream : Stream) (text : String) : Procedure Machine Unit :=
  .perform (S := Machine) (.say stream text)

/-- Leaves a note. -/
def note (n : Note) : Procedure Machine Unit :=
  .perform (S := Machine) (.note n)

/-- Leaves notes in order. -/
def noteAll : List Note → Procedure Machine Unit
  | [] => pure ()
  | n :: rest => do
    note n
    noteAll rest

/-- The time, as notes show it. -/
def time : Procedure Machine String :=
  .perform (S := Machine) .time

end Machine

end Egress
