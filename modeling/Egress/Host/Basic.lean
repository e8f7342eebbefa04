import Egress.Host.FileStore.Change
import Egress.Host.Shell.Run
import Egress.Machine

/-!
# A machine in memory

A machine whose files are a store and whose programs are the few that a router's commands need. It
has no network. `Host.answer` answers a program's requests; what the program wrote is kept.
-/

set_option autoImplicit false

namespace Egress

/-- A machine in memory. -/
structure Host where
  files : Host.FileStore := {}
  output : String := ""
  errors : String := ""
  /-- Variables that programs get. -/
  «variables» : List (String × String) := []
  /-- The signal that ends waiting for one. -/
  signal : Signal := .terminate
  /-- The time, as notes show it. -/
  time : String := ""
  /-- Seconds waited. -/
  elapsed : Nat := 0

namespace Host

/-- Runs a program, found by its name or at a path, to its end. It gets variables. -/
def spawn (environment : List (String × String)) (files : FileStore) (program : String)
    (args : List String) : Except Fault (FileStore × Outcome) :=
  if (program :: args).any fun word => '\x00' ∈ word.toList then
    .error (.other "nul byte found in provided data")
  else
    (executable files (Text.Raw.ofText program) (args.map Text.Raw.ofText)).map
      fun (name, args) => Shell.perform environment files name args

/-- Answers a program's requests. -/
def answer : (q : Machine.Request) → StateM Host (Machine.Reply q)
  | .has path => return (← get).files.has path
  | .isFile path => return (← get).files.isFile path
  | .readText path => return (← get).files.readText path
  | .create dir => do
    match (← get).files.createIn dir with
    | .ok (files, path) =>
      modify fun h => { h with files }
      return .ok path
    | .error fault => return .error fault
  | .append path content => change fun files => files.append path (Text.encode content)
  | .flush _ => return .ok ()
  | .setMode path mode => change fun files => files.setMode path mode
  | .rename source destination => change fun files => files.rename source destination
  | .remove path => modify fun h => { h with files := h.files.remove path }
  | .spawn program args => do
    let h ← get
    match spawn h.variables h.files program args with
    | .ok (files, outcome) =>
      modify fun h => { h with files }
      return .ok outcome
    | .error fault => return .error fault
  | .connect _ => return .unreachable
  | .pause => modify fun h => { h with elapsed := h.elapsed + 1 }
  | .awaitSignal _ => return some (← get).signal
  | .say .output text => modify fun h => { h with output := h.output ++ text }
  | .say .errors text => modify fun h => { h with errors := h.errors ++ text }
  | .note _ => pure ()
  | .time => return (← get).time
where
  /-- Changes the files, unless that fails. -/
  change (f : FileStore → Except Fault FileStore) : StateM Host (Except Fault Unit) := do
    match f (← get).files with
    | .ok files =>
      modify fun h => { h with files }
      return .ok ()
    | .error fault => return .error fault

/-- Runs a procedure on the machine. -/
def run {α : Type} (p : Procedure Machine α) (h : Host) : α × Host :=
  (p.run answer).run h

end Host

end Egress
