import Egress.Host.FileStore.Basic
import Egress.Router.Transport

/-!
# Routers that answer from a script

A script says how a router answers commands and installs. `Rehearsal.answer` answers the requests of
router operations from it and records what was asked: the commands run, the files installed, and the
seconds waited.
-/

set_option autoImplicit false

namespace Egress

/-- What a list of answers gives next: each in turn, and the last one over and over. -/
def nextAnswer {α : Type} : List α → Option (α × List α)
  | [] => none
  | [a] => some (a, [a])
  | a :: rest => some (a, rest)

/-- How commands are answered that begin with a text. -/
structure CommandRule where
  opening : String
  /-- Answers in turn; a fault may name the command. -/
  answers : List (String → Except TransportError String)

/-- A router's answers. -/
structure Script where
  /-- The first rule that applies to a command answers it. -/
  rules : List CommandRule := []
  /-- Answers to installs in turn; a fault may name the destination. Without any, all work. -/
  installs : List (String → Except TransportError Unit) := []

/-- A file that was installed. -/
structure Installed where
  destination : String
  content : String
  mode : Nat
  deriving DecidableEq, Repr

/-- A script in use and what was asked so far. -/
structure Rehearsal where
  script : Script := {}
  /-- Where template files are read. -/
  files : Host.FileStore := {}
  commands : List String := []
  installed : List Installed := []
  /-- Seconds waited. -/
  elapsed : Nat := 0

namespace Script

/-- The answer to a command and the rules after it. A command without a rule gives a line that
names it. -/
def answerCommand (command : String) :
    List CommandRule → Except TransportError String × List CommandRule
  | [] => (.ok ("ran " ++ command ++ "\n"), [])
  | r :: rest =>
    if r.opening.toList.isPrefixOf command.toList then
      match nextAnswer r.answers with
      | some (a, answers) => (a command, { r with answers } :: rest)
      | none => (.ok ("ran " ++ command ++ "\n"), r :: rest)
    else
      let (answer, rest) := answerCommand command rest
      (answer, r :: rest)

end Script

namespace Rehearsal

/-- Answers a request and records it. -/
def answer : (q : Router.Request) → StateM Rehearsal (Router.Reply q)
  | .run _ command => do
    let s : Rehearsal ← get
    let (result, rules) := Script.answerCommand command s.script.rules
    set { s with script := { s.script with rules }, commands := s.commands ++ [command] }
    return result
  | .template path => return (← get).files.readText path
  | .stage destination _ => return .ok destination
  | .install file destination mode => do
    let s : Rehearsal ← get
    let done := { s with installed := s.installed ++ [Installed.mk destination file.content mode] }
    match nextAnswer s.script.installs with
    | none =>
      set done
      return .ok ()
    | some (result, installs) =>
      match result destination with
      | .ok () =>
        set { done with script := { s.script with installs } }
        return .ok ()
      | .error e =>
        set { s with script := { s.script with installs } }
        return .error e
  | .discard _ => pure ()
  | .pause => modify fun s => { s with elapsed := s.elapsed + 1 }
  | .note _ => pure ()

end Rehearsal

end Egress
