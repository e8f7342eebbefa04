import Egress.Command.Basic
import Egress.Text.Piece

/-!
# Arguments

The arguments of the program as a command with options. Options of the program may stand before the
command's name or after it; what stands after it counts more. Arguments are read from left to right,
and the first that cannot be accepted, or that asks for the version or for help, decides.
-/

set_option autoImplicit false

namespace Egress.CommandLine

/-- What the arguments ask for when it is no command. -/
inductive Refusal where
  /-- The arguments cannot be accepted. -/
  | usage
  | help
  /-- Print the version, of the program or of one of its commands. -/
  | version (command : Option String)
  deriving DecidableEq, Repr

/-- Options of the program, as given on one side of the command's name. -/
structure Options where
  config : Option String := none
  logLevel : Option String := none
  verbose : Nat := 0
  quiet : Bool := false
  deriving DecidableEq, Repr

/-- What a command takes besides the options of the program. -/
structure Shape where
  name : String
  /-- Fewest arguments. -/
  least : Nat
  /-- Most arguments, if there is a bound. -/
  most : Option Nat
  /-- Whether it can print JSON. -/
  json : Bool
  /-- The command that arguments make. -/
  make : List String → Bool → Command

/-- The commands. -/
def shapes : List Shape :=
  [⟨"vendors", 0, some 0, false, fun _ _ => .vendors⟩,
   ⟨"tree", 1, some 1, true, fun args json => .tree (args.headD "") json⟩,
   ⟨"find", 2, some 2, false, fun args _ => .find (args.headD "") (args.getD 1 "")⟩,
   ⟨"levels", 1, none, false, fun args _ => .levels (args.headD "") args.tail⟩,
   ⟨"servers", 1, none, true, fun args json => .servers (args.headD "") args.tail json⟩,
   ⟨"select", 2, some 2, true, fun args json => .select (args.headD "") (args.getD 1 "") json⟩,
   ⟨"check", 0, some 0, false, fun _ _ => .check⟩,
   ⟨"status", 0, some 0, false, fun _ _ => .status⟩,
   ⟨"watch", 0, some 0, false, fun _ _ => .watch⟩]

/-- What has been read on one side of the command's name. -/
structure Reading where
  options : Options := {}
  json : Bool := false
  /-- Arguments that are no options, last first. -/
  arguments : List String := []

/-- The argument that an option takes from those after it: not one that looks like an option. -/
def takeValue : List String → Except Refusal (String × List String)
  | [] => .error .usage
  | value :: rest =>
    if value.toList.head? = some '-' && value ≠ "-" then .error .usage else .ok (value, rest)

/-- Takes over the file of the configuration. -/
def setConfig (value : String) (r : Reading) : Except Refusal Reading :=
  if value = "" || r.options.config.isSome then .error .usage
  else .ok { r with options := { r.options with config := some value } }

/-- Takes over the level of notes. -/
def setLogLevel (value : String) (r : Reading) : Except Refusal Reading :=
  if r.options.logLevel.isSome then .error .usage
  else .ok { r with options := { r.options with logLevel := some value } }

/-- Takes over that little is to be said. -/
def setQuiet (r : Reading) : Except Refusal Reading :=
  if r.options.quiet then .error .usage
  else .ok { r with options := { r.options with quiet := true } }

/-- Takes over that more is to be said. -/
def addVerbose (r : Reading) : Reading :=
  { r with options := { r.options with verbose := r.options.verbose + 1 } }

/-- Takes over that JSON is to be printed. -/
def setJson (r : Reading) : Except Refusal Reading :=
  if r.json then .error .usage else .ok { r with json := true }

/-- Reads a long option, its name and the value attached to it, with the arguments after it. -/
def readLong (shape : Option Shape) (name : String) (attached : Option String)
    (rest : List String) (r : Reading) : Except Refusal (Reading × List String) := do
  match name, attached with
  | "config", some value => return (← setConfig value r, rest)
  | "config", none =>
    let (value, rest) ← takeValue rest
    return (← setConfig value r, rest)
  | "log-level", some value => return (← setLogLevel value r, rest)
  | "log-level", none =>
    let (value, rest) ← takeValue rest
    return (← setLogLevel value r, rest)
  | "verbose", none => return (addVerbose r, rest)
  | "quiet", none => return (← setQuiet r, rest)
  | "json", none =>
    if (shape.map Shape.json).getD false then return (← setJson r, rest) else throw .usage
  | "help", none => throw .help
  | "version", none => throw (.version (shape.map Shape.name))
  | _, _ => throw .usage

/-- Reads a cluster of short options, with the arguments after it. -/
def readShort (shape : Option Shape) : List Char → List String → Reading →
    Except Refusal (Reading × List String)
  | [], rest, r => .ok (r, rest)
  | 'c' :: attached, rest, r => do
    match attached with
    | [] =>
      let (value, rest) ← takeValue rest
      return (← setConfig value r, rest)
    | '=' :: value => return (← setConfig (String.ofList value) r, rest)
    | value => return (← setConfig (String.ofList value) r, rest)
  | 'v' :: more, rest, r => readShort shape more rest (addVerbose r)
  | 'q' :: more, rest, r => do readShort shape more rest (← setQuiet r)
  | 'h' :: _, _, _ => .error .help
  | 'V' :: _, _, _ => .error (.version (shape.map Shape.name))
  | _ :: _, _, _ => .error .usage

/-- Reads an option, if the argument is one, with the arguments after it. -/
def readOption (shape : Option Shape) (argument : String) (rest : List String) (r : Reading) :
    Option (Except Refusal (Reading × List String)) :=
  match argument.toList with
  | '-' :: '-' :: long =>
    let name := long.takeWhile (· ≠ '=')
    let attached := match long.drop name.length with
      | _ :: value => some (String.ofList value)
      | [] => none
    some (readLong shape (String.ofList name) attached rest r)
  | '-' :: c :: short => some (readShort shape (c :: short) rest r)
  | _ => none

/-- Adds an argument of a command. -/
def addArgument (shape : Shape) (argument : String) (r : Reading) : Except Refusal Reading :=
  match shape.most with
  | some most =>
    if r.arguments.length < most then .ok { r with arguments := argument :: r.arguments }
    else .error .usage
  | none => .ok { r with arguments := argument :: r.arguments }

/-- Reads what stands after the name of a command; `fuel` bounds the arguments. -/
def readCommand (shape : Shape) : Nat → List String → Reading → Except Refusal Reading
  | 0, _, _ => .error .usage
  | _ + 1, [], r => if r.arguments.length < shape.least then .error .usage else .ok r
  | fuel + 1, argument :: rest, r =>
    if argument = "--" then do
      let r ← rest.foldlM (fun r a => addArgument shape a r) r
      if r.arguments.length < shape.least then throw .usage
      return r
    else match readOption (some shape) argument rest r with
      | some step => do
        let (r, rest) ← step
        readCommand shape fuel rest r
      | none => do readCommand shape fuel rest (← addArgument shape argument r)

/-- Whether arguments name commands to be explained. -/
def explains (args : List String) : Bool :=
  match args with
  | [] => true
  | [name] => name = "help" || shapes.any (·.name = name)
  | _ => false

/-- Reads all arguments: the options before the command's name, the command, and what stands after
its name. `fuel` bounds the arguments. -/
def readAll : Nat → List String → Reading → Except Refusal (Reading × Shape × Reading)
  | 0, _, _ => .error .usage
  | _ + 1, [], _ => .error .usage
  | fuel + 1, argument :: rest, r =>
    if argument = "--" then .error .usage
    else match readOption none argument rest r with
      | some step => do
        let (r, rest) ← step
        readAll fuel rest r
      | none =>
        match shapes.find? (·.name = argument) with
        | some shape => do
          return (r, shape, ← readCommand shape (rest.length + 1) rest {})
        | none => .error (if argument = "help" && explains rest then .help else .usage)

/-- What the program is asked to do. -/
structure Invocation where
  config : Option String
  /-- Which notes are wanted. -/
  logLevel : String
  command : Command
  deriving DecidableEq, Repr

/-- Which notes options ask for: as few as possible, more, or those named. -/
def wantedNotes (before after : Options) : String :=
  let verbose := if after.verbose = 0 then before.verbose else after.verbose
  if before.quiet || after.quiet then "error"
  else if verbose = 0 then (after.logLevel <|> before.logLevel).getD "warn"
  else if verbose = 1 then "debug"
  else "trace"

/-- The file of the configuration: as given last, or by the environment, where it may not be
empty. -/
def chooseConfig (fromEnvironment : Option String) (before after : Options) :
    Except Refusal (Option String) :=
  match before.config, after.config with
  | some _, some path => .ok (some path)
  | given, given' =>
    if fromEnvironment = some "" then .error .usage
    else .ok (given' <|> given <|> fromEnvironment)

/-- What arguments ask for. -/
def parse (fromEnvironment : Option String) (args : List String) : Except Refusal Invocation := do
  let (before, shape, after) ← readAll (args.length + 1) args {}
  let config ← chooseConfig fromEnvironment before.options after.options
  return {
    config
    logLevel := wantedNotes before.options after.options
    command := shape.make after.arguments.reverse after.json }

end Egress.CommandLine
