import Egress.Host.Executable
import Egress.Host.Shell.Builtin

/-!
# Running commands

What each command does to the shell, given an evaluator for what stands inside it, and the
evaluator itself, which goes a number of levels deep. A program that is started gets the shell's
streams; a shell that is started is run on the same streams with a state of its own.
-/

set_option autoImplicit false

namespace Egress.Host.Shell

/-! ## Programs -/

/-- Runs a known program that starts no others. -/
def runProgram (name : String) (args : List String) : Run Unit := do
  match Keyed.get? name programs with
  | none => Run.finish 127
  | some program =>
    let s ← get
    let input := s.available 0
    let effect := program args input s.files
    let s := if effect.consumed then s.consume 0 input.length else s
    set { s with files := { effect.files with cwd := s.files.cwd, mask := s.files.mask } }
    Run.deliver effect.outcome
    if (← get).lost then
      Run.write 2 (name ++ ": write error: Bad file descriptor\n")
      modify fun s => { s with lost := false, status := 1 }

/-- What a shell that is started is to run. -/
inductive Task where
  /-- A text, or the input. -/
  | text (script : Option String)
  | file (path : String)

/-- Options, task and arguments of a shell from the words it is started with. -/
structure Start where
  options : List Char
  name : String
  task : Task
  arguments : List String

/-- Whether words ask for a text to be run: an option among the first has the letter for it. -/
def wantsText (args : List String) : Bool :=
  (args.takeWhile fun arg => arg.toList.head? = some '-' && arg ≠ "--" && arg ≠ "-").any fun arg =>
    arg.toList.contains 'c'

/-- Options without the letter that asks for a text to be run. -/
def withoutText (args : List String) : List String :=
  args.filterMap fun arg => match arg.toList with
    | '-' :: letters =>
      let others := letters.filter (· ≠ 'c')
      if others.isEmpty && !letters.isEmpty then none else some (String.ofList ('-' :: others))
    | _ => some arg

/-- What the words that a shell is started with ask for. -/
def startOf (program : String) (args : List String) : Except String Start :=
  let isOption (arg : String) : Bool :=
    (arg.toList.head? = some '-' || arg.toList.head? = some '+') && arg ≠ "--" && arg ≠ "-"
  if wantsText args then
    let given := args.takeWhile isOption
    match setOptions [] (withoutText given) with
    | .error complaint => .error complaint
    | .ok (options, _) =>
      let rest := match args.drop given.length with
        | "--" :: rest => rest
        | rest => rest
      match rest with
      | [] => .error "-c requires an argument"
      | [text] => .ok ⟨options, program, .text (some text), []⟩
      | text :: name :: rest => .ok ⟨options, name, .text (some text), rest⟩
  else
    match setOptions [] args with
    | .error complaint => .error complaint
    | .ok (options, rest) =>
      let rest := rest.getD []
      match rest with
      | [] => .ok ⟨options, program, .text none, []⟩
      | path :: arguments =>
        if options.contains 's' then .ok ⟨options, program, .text none, rest⟩
        else .ok ⟨options, path, .file path, arguments⟩

/-- Runs a shell's task. -/
def runTask (e : Evaluator) (start : Start) : Run Unit := do
  let s ← get
  match start.task with
  | .text (some text) =>
    set { s with name := start.name }
    runText e false text
  | .text none =>
    let input := s.available 0
    set { s.consume 0 input.length with name := start.name }
    runText e false (Text.Raw.ofBytes input)
  | .file path =>
    match openToRead s path with
    | .error complaint => Run.abort complaint
    | .ok _ =>
      let content := match s.files.read (Text.Raw.toText path) with
        | .ok (content, _) => content
        | .error _ => []
      set { s with name := start.name }
      runText e false (Text.Raw.ofBytes content)

/-- What the shell does that was started with some words. -/
def shellMain (e : Evaluator) (program : String) (args : List String) : Run Unit := do
  modify fun s => { s with name := program, line := 0 }
  match startOf program args with
  | .error complaint => Run.abort complaint
  | .ok start =>
    modify fun s => { s with options := start.options, arguments := start.arguments }
    runTask e start

/-- The state of a shell that a shell starts. -/
def Session.fresh (s : Session) : Session :=
  { files := s.files, streams := s.streams, descriptors := s.descriptors, process := s.process + 1,
    bindings := s.environment, traps := s.traps.filter fun (_, action) => action = "" }

/-- How the end of a process by a signal is reported. -/
def signalReport : Nat → String
  | 1 => "Hangup\n"
  | 2 => ""
  | 3 => "Quit\n"
  | 6 => "Aborted\n"
  | 9 => "Killed\n"
  | 10 => "User defined signal 1\n"
  | 12 => "User defined signal 2\n"
  | 13 => ""
  | 14 => "Alarm clock\n"
  | 15 => "Terminated\n"
  | n => "Signal " ++ toString n ++ "\n"

/-- Starts a shell and waits for its end. -/
def startShell (e : Evaluator) (program : String) (args : List String) : Run Unit := do
  let s ← get
  let caught : Run (Option Nat) := do
    try
      set s.fresh
      toItsEnd e (shellMain e program args)
      return none
    catch
      | .killed signal => return some signal
      | _ => return none
  let signal ← caught
  modify fun after =>
    { s with
      files := { after.files with cwd := s.files.cwd, mask := s.files.mask }
      streams := after.streams
      status := match signal with
        | some n => 128 + n
        | none => after.status }
  match signal with
  | some n => Run.write 2 (signalReport n)
  | none => return

/-- Whether a word assigns a variable. -/
def isAssignment (word : String) : Bool :=
  let (name, value) := splitAssignment word
  value.isSome && name ≠ ""

/-- Starts a known program with arguments; `launch` starts what another program is asked to. -/
def startProgram (e : Evaluator) (launch : String → List String → Run Unit) (name : String)
    (args : List String) : Run Unit := do
  match name with
  | "sh" => startShell e name args
  | "dash" => startShell e name args
  | "env" =>
    let args := args.dropWhile fun arg => arg = "-" || arg = "-i"
    let given := args.takeWhile isAssignment
    let s ← get
    match args.drop given.length with
    | [] =>
      let lines := s.environment.map fun (name, v) => name ++ "=" ++ v.value.getD "" ++ "\n"
      Run.write 1 (String.join (lines ++ given.map (· ++ "\n")))
      Run.finish 0
    | program :: rest =>
      for arg in given do
        let (name, value) := splitAssignment arg
        modify fun s => (s.bind name (value.getD "")).mark (fun v => { v with exported := true })
          name
      launch program rest
      modify fun after => { after with bindings := s.bindings }
  | name => runProgram name args

/-- Status after a program that cannot be run: one that is not found, or one that is. -/
def failureStatus (program : String) (fault : Fault) : Nat :=
  let missing := [Fault.noEntry, .notDirectory, .nameTooLong, .tooManyLinks].contains fault
  if missing || !program.toList.contains '/' then 127 else 126

/-- Starts a program by its path or name. A file that is no program is run as a script. -/
def launch (e : Evaluator) : Nat → String → List String → Run Unit
  | 0, _, _ => Run.finish 126
  | n + 1, program, args => do
    match executable (← get).files program args with
    | .ok (name, args) => startProgram e (launch e n) name args
    | .error .noExecutable => startShell e "sh" (program :: args)
    | .error fault =>
      let reason := if fault = .noEntry || fault = .notDirectory then "not found" else fault.reason
      Run.complain (program ++ ": " ++ reason)
      Run.finish (failureStatus program fault)

/-- Most programs that start one another before anything is run. -/
def maxLaunches : Nat := 100

/-- Starts a program by its path or name. -/
def external (e : Evaluator) (program : String) (args : List String) : Run Unit :=
  launch e maxLaunches program args

/-! ## Simple commands -/

/-- Runs one of the shell's own commands. -/
def runBuiltin (e : Evaluator) (tested : Bool) (name : String) (b : Builtin)
    (args : List String) : Run Unit := do
  let outer := (← get).builtin
  let outerTested := (← get).tested
  let restore : Run Unit := modify fun s => { s with builtin := outer, tested := outerTested }
  modify fun s => { s with builtin := some name, tested, lost := false }
  try
    b e args
    if (← get).lost then
      Run.complain (name ++ ": I/O error")
      modify fun s => { s with lost := false, status := 1 }
    restore
  catch
    | .failed =>
      restore
      if specialNames.contains name then throw .failed
    | escape =>
      restore
      throw escape

/-- Most functions that run inside each other. -/
def maxCalls : Nat := 1000

/-- Runs a function. -/
def runFunction (e : Evaluator) (tested : Bool) (body : Command) (args : List String) :
    Run Unit := do
  let s ← get
  if maxCalls ≤ s.frames.length then
    Run.abort ("Maximum function recursion depth (" ++ toString maxCalls ++ ") reached")
  let restore : Run Unit := modify fun after =>
    let after := after.restore (after.frames.headD [])
    { after with
      arguments := s.arguments
      loops := s.loops
      frames := after.frames.tail
      optionOffset := s.optionOffset }
  set { s with arguments := args, loops := 0, frames := [] :: s.frames, optionOffset := 0 }
  try
    e.command tested body
    restore
  catch
    | .returned => restore
    | escape =>
      restore
      throw escape

/-- The shell's own commands that start others or tell what they are. -/
def startingNames : List String :=
  ["command", "exec", "type"]

/-- What a word at the start of a command names. -/
inductive Callee where
  | special
  | function (body : Command)
  | builtin
  | program

/-- What a word at the start of a command names. -/
def Session.callee (s : Session) (name : String) : Callee :=
  if specialNames.contains name then .special
  else match Keyed.get? name s.functions with
    | some body => .function body
    | none =>
      if startingNames.contains name || (Keyed.get? name builtins).isSome then .builtin
      else .program

/-- Says what a name stands for, as a path or a name. -/
def whereIs (verbose : Bool) (name : String) : Run Unit := do
  let s ← get
  let write (terse long : String) : Run Unit := do
    Run.write 1 ((if verbose then name ++ long else terse) ++ "\n")
    Run.finish 0
  if keywords.contains name then write name " is a shell keyword"
  else match s.callee name with
    | .special => write name " is a special shell builtin"
    | .function _ => write name " is a shell function"
    | .builtin => write name " is a shell builtin"
    | .program =>
      let path := if name.toList.contains '/' then name else "/usr/bin/" ++ name
      let found := if name.toList.contains '/' then (s.files.lookup (Text.Raw.toText name)).toBool
        else isProgram name
      if found then write path (" is " ++ path)
      else
        if verbose then Run.write 1 (name ++ ": not found\n")
        Run.finish 127

/-- Runs a program in the shell's place. -/
def execBuiltin : Builtin := fun e args => do
  match args.filter (· ≠ "--") with
  | [] => Run.finish 0
  | name :: rest =>
    let s ← get
    set { s with traps := [] }
    match executable s.files name rest with
    | .error .noEntry =>
      Run.complain (name ++ ": not found")
      Run.finish 127
    | _ => external e name rest
    throw .exited

/-- Says what names stand for. -/
def typeBuiltin : Builtin := fun _ args => do
  for name in args do whereIs true name

/-- The shell's own commands, but the one that starts any of them. -/
def ownCommands : List (String × Builtin) :=
  ("exec", execBuiltin) :: ("type", typeBuiltin) :: builtins

/-- Runs one of the shell's own commands, or a program, and no function. -/
def commandBuiltin (e : Evaluator) : List String → Run Unit
  | [] => Run.finish 0
  | "-p" :: rest => commandBuiltin e rest
  | "--" :: rest => commandBuiltin e rest
  | "command" :: rest => commandBuiltin e rest
  | "-v" :: names => whereIs false (names.headD "")
  | "-V" :: names => whereIs true (names.headD "")
  | name :: rest => do
    match Keyed.get? name ownCommands with
    | some b =>
      modify fun s => { s with builtin := some name }
      b e rest
    | none =>
      if name.toList.head? = some '-' then
        refuse ("Illegal option " ++ String.ofList (name.toList.take 2))
      else
        modify fun s => { s with builtin := none }
        external e name rest

/-- Runs a command of words, with the variables that it is given only. -/
def call (e : Evaluator) (tested : Bool) (name : String) (args : List String) : Run Unit := do
  match (← get).callee name, Keyed.get? name (("command", commandBuiltin) :: ownCommands) with
  | .function body, _ => runFunction e tested body args
  | .program, _ => external e name args
  | _, some b => runBuiltin e tested name b args
  | _, none => Run.finish 127

/-- Whether a command's redirections and variables stay after it. -/
def stays (name : String) : Bool :=
  specialNames.contains name

/-- The text of assignments as a trace shows it. -/
def assignmentTexts (assignments : List (String × String)) : List String :=
  assignments.map fun (name, text) => name ++ "=" ++ text

/-- Shows a command before it is run, if the shell is asked to. -/
def trace (assignments : List (String × String)) (words : List String) : Run Unit := do
  if (← get).has 'x' then
    let line := "+ " ++ " ".intercalate (assignmentTexts assignments ++ words)
    Run.write 2 (line ++ "\n")

/-- The texts of assignments, each of which sees those before it if they stay. -/
def assignmentValues (e : Evaluator) (keep : Bool) :
    List (String × Word) → Run (List (String × String))
  | [] => return []
  | (name, w) :: rest => do
    let text ← e.text w
    if keep then Run.assign name text
    return (name, text) :: (← assignmentValues e keep rest)

/-- Does something with variables that are given back afterwards. -/
def withVariables (assignments : List (String × String)) (r : Run Unit) : Run Unit := do
  let s ← get
  let restore : Run Unit := modify (·.restore
    (assignments.map fun (name, _) => (name, Keyed.get? name s.bindings)))
  for (name, text) in assignments do
    Run.assign name text
    modify (·.mark (fun v => { v with exported := true }) name)
  try
    r
    restore
  catch escape =>
    restore
    throw escape

/-- Runs a simple command. -/
def runSimple (e : Evaluator) (tested : Bool) (assignments : List (String × Word))
    (ws : List Word) (rs : List (Redirection Word)) (line : Nat) : Run Unit := do
  modify fun s => { s with line, outputStatus := 0 }
  match ← e.fields ws with
  | [] =>
    let body : Run Unit := do
      let values ← assignmentValues e true assignments
      trace values []
      Run.finish (← get).outputStatus
    redirecting e rs body
  | name :: args =>
    let body : Run Unit := do
      let values ← assignmentValues e (stays name) assignments
      trace values (name :: args)
      if stays name || values.isEmpty then call e tested name args
      else withVariables values (call e tested name args)
    if name = "exec" && args.isEmpty then
      if ← redirectAll e rs then body else throw .failed
    else if stays name then
      keepingDescriptors do
        if ← redirectAll e rs then body else throw .failed
    else redirecting e rs body

/-! ## Compound commands -/

/-- Runs the commands of a pipeline, each with the input that the one before it wrote, and all with
the status from before. -/
def runPipeline (e : Evaluator) (tested : Bool) (status : Nat) :
    Option Nat → List Command → Run Unit
  | _, [] => return
  | input, c :: rest => do
    let feed : Run Unit := do
      Run.finish status
      match input with
      | some i => modify (·.setDescriptor 0 (some i))
      | none => return
    match rest with
    | [] => isolated e do
        feed
        e.command tested c
    | rest => do
      let (i, s) := (← get).addStream (.kept [])
      set s
      isolated e do
        feed
        modify (·.setDescriptor 1 (some i))
        e.command tested c
      modify fun s => match s.streams[i]? with
        | some (.kept bytes) => s.setStream i (.supply bytes)
        | _ => s
      runPipeline e tested status (some i) rest

/-- What a body does in a loop: whether the loop goes on. -/
def loopStep (r : Run Unit) : Run Bool := do
  modify fun s => { s with loops := s.loops + 1 }
  let restore : Run Unit := modify fun s => { s with loops := s.loops - 1 }
  try
    r
    restore
    return true
  catch
    | .leave levels again =>
      restore
      if 1 < levels then throw (.leave (levels - 1) again)
      return again
    | escape =>
      restore
      throw escape

/-- Runs a loop at most so many times; `status` is that of the body before. -/
def runLoop (e : Evaluator) (tested untilOk : Bool) (test body : Command) :
    Nat → Nat → Run Unit
  | 0, status => Run.finish status
  | n + 1, status => do
    let goesOn ← loopStep do
      e.command true test
      if decide ((← get).status = 0) = untilOk then
        Run.finish status
        throw (.leave 0 false)
      e.command tested body
    if goesOn then runLoop e tested untilOk test body n (← get).status

/-- Runs a body for each value of a name. -/
def runEach (e : Evaluator) (tested : Bool) (name : String) (body : Command) :
    List String → Run Unit
  | [] => return
  | value :: rest => do
    Run.assign name value
    if ← loopStep (e.command tested body) then runEach e tested name body rest

/-- The command of the first branch with a pattern that fits a text. -/
def branchFor? (e : Evaluator) (text : String) :
    List (List Word × Command) → Run (Option Command)
  | [] => return none
  | (ws, c) :: rest => do
    let fits ← ws.anyM fun w => do return (← e.pattern w).fits text.toList
    if fits then return some c else branchFor? e text rest

/-- Ends the shell after a command that failed, if the shell is to do so and the failure is not
looked at. -/
def checked (tested : Bool) (r : Run Unit) : Run Unit := do
  r
  let s ← get
  if s.has 'e' && !tested && s.status ≠ 0 then throw .exited

/-- Most rounds of a loop. -/
def maxRounds : Nat := 100000

/-- Runs a command. -/
def runCommand (e : Evaluator) (tested : Bool) : Command → Run Unit
  | .nothing => Run.finish 0
  | .simple assignments ws rs line =>
    checked tested (runSimple e tested assignments ws rs line)
  | .redirected c rs line => checked tested do
    modify fun s => { s with line }
    redirecting e rs (e.command tested c)
  | .pipeline cs => checked tested do
    runPipeline e tested (← get).status none cs
  | .negated c => do
    e.command true c
    Run.finish (if (← get).status = 0 then 1 else 0)
  | .background c => do
    let (i, s) := (← get).addStream .nowhere
    set s
    isolated e do
      modify (·.setDescriptor 0 (some i))
      e.command false c
    modify fun s =>
      let process := match s.background with
        | (n, _) :: _ => n + 1
        | [] => s.process + 1
      { s with background := (process, s.status) :: s.background, status := 0 }
  | .followedBy first second => do
    e.command tested first
    e.command tested second
  | .ifOk first second => do
    e.command true first
    if (← get).status = 0 then e.command tested second
  | .ifFailed first second => do
    e.command true first
    if (← get).status ≠ 0 then e.command tested second
  | .choice test yes no => do
    e.command true test
    if (← get).status = 0 then e.command tested yes else e.command tested no
  | .loop untilOk test body => runLoop e tested untilOk test body maxRounds 0
  | .each name values body line => do
    modify fun s => { s with line }
    let values ← e.fields values
    if values.isEmpty then Run.finish 0 else runEach e tested name body values
  | .select subject branches line => do
    modify fun s => { s with line }
    let text ← e.text subject
    match ← branchFor? e text branches with
    | some c => e.command tested c
    | none => Run.finish 0
  | .subshell c => checked tested (isolated e (e.command tested c))
  | .define name body => modify fun s =>
    { s with functions := Keyed.set name body s.functions, status := 0 }

mutual

/-- Runs a command that goes at most so many levels deep, unless the shell is to run none. -/
def runAtDepth : Nat → Bool → Command → Run Unit
  | 0, _, _ => throw .exited
  | n + 1, tested, c => do
    if !(← get).has 'n' then runCommand ⟨runAtDepth n, glyphsAtDepth n⟩ tested c

/-- Glyphs of a word that goes at most so many levels deep. -/
def glyphsAtDepth : Nat → Origin → Word → Run (List Glyph)
  | 0, _, _ => throw .exited
  | n + 1, origin, w => wordGlyphs ⟨runAtDepth n, glyphsAtDepth n⟩ origin w

end

/-- Most levels that commands go deep. -/
def maxDepth : Nat := 20000

/-- Evaluates commands and words. -/
def evaluator : Evaluator :=
  ⟨runAtDepth maxDepth, glyphsAtDepth maxDepth⟩

/-! ## Processes -/

/-- Number of the process that is started first. -/
def firstProcess : Nat := 4711

/-- What a known program leaves behind that is started with variables and nothing to read. -/
def perform (environment : List (String × String)) (files : FileStore) (name : String)
    (args : List String) : FileStore × Outcome :=
  let bindings := environment.map fun (name, text) =>
    (name, ({ value := some (Text.Raw.ofText text), exported := true } : Variable))
  let s : Session :=
    { files, streams := [.nowhere, .kept [], .kept []], descriptors := [(0, 0), (1, 1), (2, 2)],
      process := firstProcess, bindings }
  let start : Run Unit := match name with
    | "sh" => toItsEnd evaluator (shellMain evaluator name args)
    | "dash" => toItsEnd evaluator (shellMain evaluator name args)
    | name => startProgram evaluator (external evaluator) name args
  let (result, after) := start.run s
  let bytes (i : Nat) : List UInt8 := match after.streams[i]? with
    | some (.kept bytes) => bytes
    | _ => []
  let status := match result with
    | .error (.killed _) => none
    | _ => some after.status
  ({ after.files with cwd := files.cwd, mask := files.mask }, ⟨bytes 1, bytes 2, status⟩)

end Egress.Host.Shell
