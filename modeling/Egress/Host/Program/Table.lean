import Egress.Host.Program.Condition
import Egress.Host.Program.Echo
import Egress.Host.Program.Lines
import Egress.Host.Program.Printf

/-!
# The programs of a machine

The programs that are found by name, and in the directories for programs by their paths. The shell
and `env`, which start others, are known by their names only.
-/

set_option autoImplicit false

namespace Egress.Host

/-- The program that answers whether a condition holds, and complains with a text before it. -/
def condition (start : String)
    (f : FileStore → List String → Except ConditionFault Bool) : Program :=
  fun args _ files => { outcome := conditionOutcome start (f files args), files }

/-- The programs by their names. -/
def programs : List (String × Program) :=
  [("echo", .ofOutcome echo),
    ("printf", .ofOutcome printf),
    ("true", .ofOutcome fun _ => {}),
    ("false", .ofOutcome fun _ => { status := some 1 }),
    ("test", condition "test: " holds),
    ("[", condition "[: " bracketHolds),
    ("sleep", .ofOutcome fun args => if args.isEmpty then missingOperand "sleep" "operand" else {}),
    ("cat", cat), ("head", head), ("tail", tail), ("wc", wc), ("grep", grep), ("sort", sortLines),
    ("tee", tee), ("seq", .ofOutcome seq), ("touch", touch), ("mkdir", mkdir), ("rmdir", rmdir),
    ("rm", rm), ("mv", mv), ("cp", cp), ("chmod", chmod), ("ls", ls), ("pwd", pwd),
    ("basename", .ofOutcome basename), ("dirname", .ofOutcome dirname)]

/-- Names of programs that start others. -/
def starters : List String :=
  ["sh", "dash", "env"]

/-- Whether a program is found by a name. -/
def isProgram (name : String) : Bool :=
  starters.contains name || Keyed.mem name programs

/-- The name of the program at a path in a directory for programs. -/
def programAt? (path : String) : Option String :=
  let found := ["/bin/", "/usr/bin/"].find? fun dir => dir.toList.isPrefixOf path.toList
  (found.map fun dir => String.ofList (path.toList.drop dir.length)).filter isProgram

end Egress.Host
