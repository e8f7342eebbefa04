import Egress.Host.Shell.Evaluator
import Egress.Host.Shell.Reader.Grammar

/-!
# Running scripts

The text of a script is read up to a line end and run before it is read on, so that what stands
before a malformed line is carried out. At its end the shell runs what it was told to run then.
-/

set_option autoImplicit false

namespace Egress.Host.Shell

/-- Runs a script from where it is being read on; `n` bounds its lines. -/
def runSource (e : Evaluator) (tested : Bool) : Nat → Source → Run Unit
  | 0, _ => return
  | n + 1, source => do
    match source.nextLine with
    | .error f =>
      modify fun s => { s with line := f.line }
      Run.abort ("Syntax error: " ++ f.problem.message)
    | .ok none => return
    | .ok (some (c, rest)) =>
      modify fun s => { s with reached := rest.line }
      e.command tested c
      runSource e tested n rest

/-- Runs the text of a script. -/
def runText (e : Evaluator) (tested : Bool) (text : String) : Run Unit := do
  Run.finish 0
  runSource e tested (text.length + 1) { rest := text.toList }

/-- Runs what the shell was told to run at its end; only leaving the shell there changes the
status. -/
def runExitTrap (e : Evaluator) : Run Unit := do
  let s ← get
  match Keyed.get? "EXIT" s.traps with
  | none => return
  | some action =>
    set { s with traps := Keyed.erase "EXIT" s.traps }
    runSource e false (action.length + 1) { rest := action.toList }
    Run.finish s.status

/-- Does something up to the end of a shell. -/
def toItsEnd (e : Evaluator) (r : Run Unit) : Run Unit := do
  let leaving (r : Run Unit) : Run Unit := do
    try r catch
      | .killed signal => throw (.killed signal)
      | _ => return
  leaving r
  leaving (runExitTrap e)

/-- Runs commands in a shell of their own: files and streams stay changed, nothing else does. -/
def isolated (e : Evaluator) (r : Run Unit) : Run Unit := do
  let s ← get
  let caught : Run (Option Nat) := do
    try
      set { s with traps := s.traps.filter fun (_, action) => action = "" }
      toItsEnd e r
      return none
    catch
      | .killed signal => return some signal
      | _ => return none
  let signal ← caught
  modify fun after =>
    { s with
      files := { after.files with cwd := s.files.cwd, mask := s.files.mask }
      streams := after.streams
      status := after.status }
  match signal with
  | some n => throw (.killed n)
  | none => return

end Egress.Host.Shell
