import Egress.Command.Context
import Egress.Output.Format

/-!
# Commands

The commands of the program: looking through the vendors' directories, pointing the router at an
exit and asking how it is, and keeping directories refreshed until asked to end.
-/

set_option autoImplicit false

namespace Egress

/-- A command. -/
inductive Command where
  | vendors
  | tree (vendor : String) (json : Bool)
  | find (vendor exit : String)
  | levels (vendor : String) (path : List String)
  | servers (vendor : String) (path : List String) (json : Bool)
  | select (vendor exit : String) (json : Bool)
  | check
  | status
  | watch
  deriving DecidableEq, Repr

namespace Command

/-- Writes to the output. -/
def print (text : String) : Action Unit :=
  Machine.say .output text

/-- Writes a value as JSON to the output. -/
def printJson (v : Json) : Action Unit :=
  print (v.pretty ++ "\n")

/-- Writes a coloured message. -/
def printMessage (tone : Tone) (text : String) : Action Unit :=
  Machine.say (if tone.onErrors then .errors else .output) (formatMessage tone text)

/-- Lists the vendors. -/
def listVendors (c : Context) : Action Unit := do
  let registry ← c.directories
  print (formatVendors (registry.vendors.filterMap registry.get?) ++ "\n")

/-- Prints a vendor's tree. -/
def printTree (c : Context) (vendor : String) (json : Bool) : Action Unit := do
  let d ← c.vendor vendor
  if json then printJson d.root.toJson else print d.outline

/-- Prints the path to an exit. -/
def printPath (c : Context) (vendor exit : String) : Action Unit := do
  let d ← c.vendor vendor
  match d.find? exit with
  | some path => print (formatPath path ++ "\n")
  | none =>
    printMessage .failure (exit ++ " is not a known " ++ vendor ++ " exit")
    throw ⟨"exit not found", []⟩

/-- Lists the keys one level below a path, under the label of that level. -/
def listKeys (c : Context) (vendor : String) (path : List String) : Action Unit := do
  let d ← c.vendor vendor
  match d.levels[path.length]? with
  | none =>
    throw ⟨formatPath path ++ " holds servers, not levels; use `vpnexiter servers`", []⟩
  | some label =>
    match d.keysAt path with
    | .error e => throw e.failure
    | .ok keys => print (label ++ ":\n" ++ String.join (keys.map fun k => "  " ++ k ++ "\n"))

/-- Lists the servers at a path with their addresses. -/
def listServers (c : Context) (vendor : String) (path : List String) (json : Bool) :
    Action Unit := do
  let d ← c.vendor vendor
  match d.entriesAt path with
  | .error e => throw e.failure
  | .ok entries =>
    if json then printJson (.array (entries.map ServerEntry.toJson))
    else print (formatEntries entries)

/-- Points the router at an exit. -/
def selectExit (c : Context) (vendor exit : String) (json : Bool) : Action Unit := do
  let (result, session) ← c.call (Session.select vendor exit)
  match result with
  | .ok state =>
    if json then printJson state.toJson
    else
      printMessage .success ("Now using " ++ vendor ++ " exit " ++ exit)
      print (formatState state)
  | .error e =>
    if json then printJson session.published.value.toJson
    printMessage .failure
      ("Unable to select " ++ vendor ++ " exit " ++ exit ++ ": " ++ e.message)
    throw ⟨e.message, e.causes⟩

/-- Makes the health check. -/
def checkTunnel (c : Context) : Action Unit := do
  let (connectivity, _) ← c.call Session.check
  printMessage connectivity.tone connectivity.label

/-- Prints the router's status. -/
def printStatus (c : Context) : Action Unit := do
  let (result, _) ← c.call Session.refreshStatus
  match result with
  | .ok text => print text
  | .error e =>
    printMessage .failure ("Failed to get VPN status: " ++ e.message)
    throw ⟨e.message, e.causes⟩

/-- The signal as notes name it. -/
def signalName : Signal → String
  | .interrupt => "Ctrl+C"
  | .terminate => "SIGTERM"

/-- Refreshes the directories whenever it is time, until asked to end; at most `rounds` times. -/
def refreshUntilAsked : Nat → Service → Action Unit
  | 0, _ => return ()
  | rounds + 1, s => do
    match ← Machine.awaitSignal s.interval with
    | some signal =>
      Machine.note ⟨.info, .watch, "Received " ++ signalName signal ++ ", shutting down..."⟩
      Machine.note ⟨.info, .registry, "Directory refresh task shutting down"⟩
    | none =>
      let report := s.sleep s.interval
      Machine.noteAll report.notes
      refreshUntilAsked rounds report.value

/-- More refreshes than any clock can count. -/
def endless : Nat := Nat.pow 2 64

/-- Keeps the directories refreshed until asked to end. -/
def keepRefreshed (c : Context) : Action Unit := do
  let s ← c.service
  let count := toString s.registry.vendors.length
  let interval := toString (s.interval / 1000)
  printMessage .success ("Loaded " ++ count ++ " vendor(s), refreshing every " ++ interval ++ "s")
  Machine.note ⟨.info, .registry,
    "Starting directory refresh task (interval: " ++ interval ++ "s, vendors: " ++ count ++ ")"⟩
  refreshUntilAsked endless s.start

/-- Carries out a command. -/
def run (c : Context) : Command → Action Unit
  | vendors => listVendors c
  | tree vendor json => printTree c vendor json
  | find vendor exit => printPath c vendor exit
  | levels vendor path => listKeys c vendor path
  | servers vendor path json => listServers c vendor path json
  | select vendor exit json => selectExit c vendor exit json
  | check => checkTunnel c
  | status => printStatus c
  | watch => keepRefreshed c

end Command

end Egress
