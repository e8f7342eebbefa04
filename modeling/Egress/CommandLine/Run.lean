import Egress.CommandLine.Arguments
import Egress.CommandLine.Log

/-!
# The program

From arguments and environment to an exit status: arguments that cannot be accepted end with status
2, a command that fails tells why and ends with status 1.
-/

set_option autoImplicit false

namespace Egress.CommandLine

/-- The program's version. -/
def version : String := "0.1.0"

/-- The line that tells the version, of the program or of one of its commands. -/
def versionLine (command : Option String) : String :=
  "vpnexiter" ++ (command.map ("-" ++ ·)).getD "" ++ " " ++ version ++ "\n"

/-- The lines that tell which commands there are. -/
def usage : String :=
  "Usage: vpnexiter [OPTIONS] <COMMAND>\n\nCommands: "
    ++ ", ".intercalate (shapes.map Shape.name) ++ "\n"

/-- Loads the configuration and carries out a command. -/
def perform (environment : String → Option String) (i : Invocation) : Action Unit := do
  let c ← Context.load environment i.config
  i.command.run c

/-- Runs the program; gives its exit status. -/
def run (environment : String → Option String) (args : List String) : Procedure Machine Nat := do
  match parse (environment "VPNEXITER_CONFIG") args with
  | .error .usage =>
    Machine.say .errors usage
    return 2
  | .error .help =>
    Machine.say .output usage
    return 0
  | .error (.version command) =>
    Machine.say .output (versionLine command)
    return 0
  | .ok i =>
    let wanted := (environment "RUST_LOG").getD i.logLevel
    Machine.say .errors (String.join (Log.Filter.complaints wanted))
    match ← Log.shown (.ofText wanted) (perform environment i).run with
    | .ok () => return 0
    | .error failure =>
      Machine.say .errors failure.report
      return 1

end Egress.CommandLine
