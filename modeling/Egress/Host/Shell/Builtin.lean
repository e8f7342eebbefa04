import Egress.Host.Program.Table
import Egress.Host.Shell.Redirect

/-!
# The shell's own commands

Commands that the shell carries out itself, by their names (`builtins`). Most of them change the
shell: its variables, arguments, options, traps and directory, or how it goes on. A complaint of one
of the special commands ends the shell.
-/

set_option autoImplicit false

namespace Egress.Host.Shell

/-- A command of the shell: what it does with its arguments. -/
abbrev Builtin := Evaluator → List String → Run Unit

/-- Complains about the command that runs, and gives up if it is a special one. -/
def refuse (text : String) : Run Unit := do
  Run.complain text
  Run.finish 2
  let s ← get
  if s.builtin.any specialNames.contains then throw .failed

/-- Does something with the number that a text is. -/
def withNumber (text : String) (f : Nat → Run Unit) : Run Unit :=
  match Text.natural? 10 text.toList with
  | some n => if n < 0x80000000 then f n else refuse ("Illegal number: " ++ text)
  | none => refuse ("Illegal number: " ++ text)

/-! ## How the shell goes on -/

/-- Ends the shell. -/
def exit : Builtin := fun _ args =>
  match args with
  | [] => throw .exited
  | text :: _ => withNumber text fun n => do
    Run.finish (n % 256)
    throw .exited

/-- Ends a function or a script that was read in. -/
def leaveFunction : Builtin := fun _ args =>
  match args with
  | [] => throw .returned
  | text :: _ => withNumber text fun n => do
    Run.finish n
    throw .returned

/-- Leaves loops. -/
def leaveLoops (again : Bool) : Builtin := fun _ args => do
  let text := args.headD "1"
  withNumber text fun n => do
    if n = 0 then refuse ("Illegal number: " ++ text)
    else
      Run.finish 0
      let levels := min n (← get).loops
      if levels ≠ 0 then throw (.leave levels again)

/-! ## Arguments and options -/

/-- Drops arguments. -/
def shift : Builtin := fun _ args =>
  withNumber (args.headD "1") fun n => do
    let s ← get
    if s.arguments.length < n then refuse "can't shift that many"
    else set { s with arguments := s.arguments.drop n, optionOffset := 0, status := 0 }

/-- Letters of options with their long names, in the order in which they are shown. -/
def optionNames : List (String × Char) :=
  [("nounset", 'u'), ("notify", 'b'), ("allexport", 'a'), ("noclobber", 'C'), ("emacs", 'E'),
    ("vi", 'V'), ("verbose", 'v'), ("xtrace", 'x'), ("stdin", 's'), ("noexec", 'n'),
    ("monitor", 'm'), ("interactive", 'i'), ("ignoreeof", 'I'), ("noglob", 'f'), ("errexit", 'e')]

/-- Options with one set or not. -/
def withOption (options : List Char) (letter : Char) (on : Bool) : List Char :=
  (optionNames.map Prod.snd).filter fun c => if c = letter then on else options.contains c

/-- Sets options by their letters; gives the first letter of none. -/
def setLetters (on : Bool) : List Char → List Char → Except String (List Char)
  | options, [] => .ok options
  | options, c :: cs =>
    if optionNames.any fun (_, letter) => letter = c then setLetters on (withOption options c on) cs
    else .error ("Illegal option " ++ (if on then "-" else "+") ++ String.ofList [c])

/-- Options after the arguments that set some, and the other arguments. -/
def setOptions (options : List Char) :
    List String → Except String (List Char × Option (List String))
  | [] => .ok (options, none)
  | "--" :: rest => .ok (options, some rest)
  | "-" :: rest => .ok (options, some rest)
  | "-o" :: name :: rest =>
    match Keyed.get? name optionNames with
    | some c => setOptions (withOption options c true) rest
    | none => .error ("Illegal option -o " ++ name)
  | "+o" :: name :: rest =>
    match Keyed.get? name optionNames with
    | some c => setOptions (withOption options c false) rest
    | none => .error ("Illegal option +o " ++ name)
  | arg :: rest =>
    match arg.toList with
    | '-' :: letters => do setOptions (← setLetters true options letters) rest
    | '+' :: letters => do setOptions (← setLetters false options letters) rest
    | _ => .ok (options, some (arg :: rest))

/-- A text between single quotes, as the shell reads it. -/
def quoteText (text : String) : String :=
  let cs := text.toList.flatMap fun c => if c = '\'' then "'\"'\"'".toList else [c]
  "'" ++ String.ofList cs ++ "'"

/-- Lines that give variables their values. -/
def bindingLines (start : String) (bindings : List (String × Variable)) : String :=
  let lines := bindings.map fun (name, v) => match v.value with
    | some text => start ++ name ++ "=" ++ quoteText text ++ "\n"
    | none => if start = "" then "" else start ++ name ++ "\n"
  String.join (lines.mergeSort atMost)

/-- Sets options and arguments, or shows variables. -/
def setBuiltin : Builtin := fun _ args => do
  let s ← get
  if args.isEmpty then
    Run.write 1 (bindingLines "" s.bindings)
    Run.finish 0
  else match setOptions s.options args with
    | .error complaint => refuse complaint
    | .ok (options, arguments) =>
      set { s with
        options
        arguments := arguments.getD s.arguments
        optionOffset := if arguments.isSome then 0 else s.optionOffset
        status := 0 }

/-- What a letter of an option wants. -/
def optionWants (letters : List Char) (c : Char) : Option Bool :=
  match letters.dropWhile (· ≠ c) with
  | [] => none
  | _ :: next :: _ => if c = ':' then none else some (next = ':')
  | [_] => if c = ':' then none else some false

/-- Takes the next option from arguments. -/
def getopts : Builtin := fun _ args => do
  match args with
  | letters :: name :: given =>
    let s ← get
    let arguments := if given.isEmpty then s.arguments else given
    let i := (((s.value? "OPTIND").bind fun t => Text.natural? 10 t.toList).getD 1) - 1
    let offset := if s.optionOffset = 0 then 1 else s.optionOffset
    let silent := letters.toList.head? = some ':'
    let arg := (arguments.getD i "").toList
    let done (next : Nat) : Run Unit := do
      modify fun s => { s.bind "OPTIND" (toString (next + 1)) with optionOffset := 0 }
      Run.assign name "?"
      Run.finish 1
    if arguments.length ≤ i || arg.length < 2 || arg.head? ≠ some '-' then done i
    else if arg = ['-', '-'] then done (i + 1)
    else
      let c := arg.getD offset '?'
      let more := offset + 1 < arg.length
      let answer (next nextOffset : Nat) (found : String) (value : Option String) : Run Unit := do
        modify fun s =>
          let s := s.bind "OPTIND" (toString (next + 1))
          let s := match value with
            | some text => s.bind "OPTARG" text
            | none => { s with bindings := Keyed.erase "OPTARG" s.bindings }
          { s with optionOffset := nextOffset }
        Run.assign name found
        Run.finish 0
      let goOn (found : String) (value : Option String) : Run Unit :=
        if more then answer i (offset + 1) found value else answer (i + 1) 0 found value
      match optionWants letters.toList c with
      | none =>
        if silent then goOn "?" (some (String.ofList [c]))
        else
          Run.write 2 ("Illegal option -" ++ String.ofList [c] ++ "\n")
          goOn "?" none
      | some false => goOn (String.ofList [c]) none
      | some true =>
        if more then
          answer (i + 1) 0 (String.ofList [c]) (some (String.ofList (arg.drop (offset + 1))))
        else match arguments[i + 1]? with
          | some value => answer (i + 2) 0 (String.ofList [c]) (some value)
          | none =>
            if silent then answer (i + 1) 0 ":" (some (String.ofList [c]))
            else
              Run.write 2 ("No arg for -" ++ String.ofList [c] ++ " option\n")
              answer (i + 1) 0 "?" none
  | _ => refuse "Usage: getopts optstring var [arg...]"

/-! ## Variables -/

/-- The name and the value of an argument that can assign one. -/
def splitAssignment (arg : String) : String × Option String :=
  let cs := arg.toList
  let name := cs.takeWhile (· ≠ '=')
  match cs.drop name.length with
  | _ :: value => (String.ofList name, some (String.ofList value))
  | [] => (String.ofList name, none)

/-- Changes each variable named, after giving it a value if the argument has one. -/
def declare (change : Session → String → Session) : List String → Run Unit
  | [] => Run.finish 0
  | arg :: rest => do
    let (name, value) := splitAssignment arg
    if !isVariableName name.toList then refuse (name ++ ": bad variable name")
    else
      match value with
      | some text =>
        if (← get).isFixed name then refuse (name ++ ": is read only")
        modify (·.bind name text)
      | none => pure ()
      modify (change · name)
      declare change rest

/-- Changes the entry of a variable. -/
def Session.mark (s : Session) (f : Variable → Variable) (name : String) : Session :=
  { s with bindings := Keyed.set name (f ((Keyed.get? name s.bindings).getD {})) s.bindings }

/-- Marks variables, or shows those that are marked. -/
def marking (word : String) (isMarked : Variable → Bool) (f : Variable → Variable) : Builtin :=
  fun _ args => do
    let names := args.filter (· ≠ "-p")
    if names.isEmpty then
      let bindings := (← get).bindings.filter fun (_, v) => isMarked v
      Run.write 1 (bindingLines (word ++ " ") bindings)
      Run.finish 0
    else declare (fun s name => s.mark f name) names

/-- Lets variables be what they were after the function that runs. -/
def localBuiltin : Builtin := fun _ args => do
  if (← get).frames.isEmpty then refuse "not in a function"
  else
    for arg in args do modify (·.remember (splitAssignment arg).1)
    declare (fun s _ => s) args

/-- Forgets variables or functions. -/
def unset : Builtin := fun _ args => do
  let names := args.filter fun arg => arg ≠ "-v" && arg ≠ "-f"
  Run.finish 0
  for name in names do
    if args.head? = some "-f" then
      modify fun s => { s with functions := Keyed.erase name s.functions }
    else if (← get).isFixed name then refuse (name ++ ": is read only")
    else modify fun s => { s with bindings := Keyed.erase name s.bindings }

/-! ## Reading -/

/-- A line at the start of bytes: its characters, with those after a backslash as literal, the
number of bytes it takes, and whether its end was found. -/
def lineAhead (raw : Bool) : List UInt8 → List PatternChar × Nat × Bool
  | [] => ([], 0, false)
  | 10 :: _ => ([], 1, true)
  | 92 :: bytes =>
    if raw then
      let (cs, n, ended) := lineAhead raw bytes
      (('\\', false) :: cs, n + 1, ended)
    else match bytes with
      | [] => ([], 1, false)
      | 10 :: bytes =>
        let (cs, n, ended) := lineAhead raw bytes
        (cs, n + 2, ended)
      | b :: bytes =>
        let (cs, n, ended) := lineAhead raw bytes
        ((Char.ofNat b.toNat, true) :: cs, n + 2, ended)
  | b :: bytes =>
    let (cs, n, ended) := lineAhead raw bytes
    ((Char.ofNat b.toNat, false) :: cs, n + 1, ended)

/-- Whether a character separates, and is a blank. -/
def isBlankIn (separators : List Char) (c : PatternChar) : Bool :=
  !c.2 && separators.contains c.1 && isBlankSeparator c.1

/-- The next field of a line and what follows it and its separator. -/
def fieldAhead (separators : List Char) (cs : List PatternChar) :
    List PatternChar × List PatternChar :=
  let ordinary (c : PatternChar) : Bool := c.2 || !separators.contains c.1
  let field := cs.takeWhile ordinary
  let rest := (cs.drop field.length).dropWhile (isBlankIn separators)
  match rest with
  | c :: more =>
    if ordinary c then (field, rest) else (field, more.dropWhile (isBlankIn separators))
  | [] => (field, [])

/-- The text of the last field of a line: all that is left, without blanks at its end. A separator
after the only field is dropped. -/
def lastField (separators : List Char) (cs : List PatternChar) : String :=
  let (field, rest) := fieldAhead separators cs
  if rest.isEmpty then plainText field
  else plainText (cs.reverse.dropWhile (isBlankIn separators)).reverse

/-- Gives names the fields of a line. -/
def assignFields (separators : List Char) : List String → List PatternChar → Run Unit
  | [], _ => return
  | [name], cs => Run.assign name (lastField separators cs)
  | name :: names, cs => do
    let (field, rest) := fieldAhead separators cs
    Run.assign name (plainText field)
    assignFields separators names rest

/-- Reads a line into variables. -/
def readBuiltin : Builtin := fun _ args => do
  let (options, names) := match args with
    | "-p" :: _ :: rest => ([], rest)
    | "-r" :: "-p" :: _ :: rest => (["-r"], rest)
    | "-rp" :: _ :: rest => (["-r"], rest)
    | args => splitOptions args
  match names with
  | [] => refuse "arg count"
  | names =>
    match names.find? fun name => !isVariableName name.toList with
    | some name => refuse (name ++ ": bad variable name")
    | none =>
      let s ← get
      let (cs, count, ended) := lineAhead (hasLetter options 'r') (s.available 0)
      set (s.consume 0 count)
      let cs := (cs.filter (·.1 ≠ '\x00')).dropWhile (isBlankIn s.separators)
      assignFields s.separators names cs
      Run.finish (if ended then 0 else 1)

/-! ## The current directory and permission bits -/

/-- The current directory's path. -/
def Session.here (s : Session) : String :=
  Text.Raw.ofText ("/" ++ "/".intercalate s.files.cwd)

/-- Changes the current directory. -/
def cd : Builtin := fun _ args => do
  let s ← get
  let path := match (splitOptions args).2 with
    | [] => (s.value? "HOME").getD ""
    | "-" :: _ => (s.value? "OLDPWD").getD s.here
    | path :: _ => path
  if path = "" then Run.finish 0
  else
    let found := do
      let l ← s.files.locate (Text.Raw.toText path)
      s.files.search l
      return l
    match found with
    | .error _ => refuse ("can't cd to " ++ path)
    | .ok l =>
      let old := s.here
      let s := { s with files := { s.files with cwd := l } }
      set ((s.bind "OLDPWD" old).bind "PWD" s.here)
      if args.contains "-" then Run.write 1 (s.here ++ "\n")
      Run.finish 0

/-- Shows or sets the permission bits that new files do not get. -/
def umask : Builtin := fun _ args => do
  let s ← get
  match args with
  | [] =>
    let digits := Nat.toDigits 8 s.files.mask
    let zeros := List.replicate (4 - digits.length) '0'
    Run.write 1 (String.ofList (zeros ++ digits) ++ "\n")
    Run.finish 0
  | text :: _ =>
    match Text.natural? 8 text.toList with
    | some n => set { s with files := { s.files with mask := n % 0o1000 }, status := 0 }
    | none => refuse ("Illegal mode: " ++ text)

/-! ## Signals -/

/-- Signals by their names. -/
def signals : List (String × Nat) :=
  [("EXIT", 0), ("HUP", 1), ("INT", 2), ("QUIT", 3), ("ILL", 4), ("TRAP", 5), ("ABRT", 6),
    ("BUS", 7), ("FPE", 8), ("KILL", 9), ("USR1", 10), ("SEGV", 11), ("USR2", 12), ("PIPE", 13),
    ("ALRM", 14), ("TERM", 15), ("CHLD", 17), ("CONT", 18), ("STOP", 19), ("TSTP", 20),
    ("TTIN", 21), ("TTOU", 22), ("URG", 23), ("WINCH", 28)]

/-- The name of the signal that a text names, by its name or its number. -/
def signal? (text : String) : Option String :=
  let wanted := String.ofList (text.toList.map Char.toUpper)
  (signals.find? fun (name, n) => name = wanted || "SIG" ++ name = wanted || toString n = text).map
    Prod.fst

/-- Sends a signal to the shell. -/
def receive (e : Evaluator) (name : String) : Run Unit := do
  let s ← get
  let number := (Keyed.get? name signals).getD 0
  let stubborn := name = "KILL" || name = "STOP"
  match if stubborn then none else Keyed.get? name s.traps with
  | some action =>
    let status := s.status
    runSource e false (action.length + 1) { rest := action.toList }
    Run.finish status
  | none =>
    if ["EXIT", "CHLD", "CONT", "URG", "WINCH"].contains name then return
    else throw (.killed number)

/-- Sends signals to processes. -/
def kill : Builtin := fun e args => do
  let (name, targets) := match args with
    | "-s" :: name :: rest => (signal? name, rest)
    | arg :: rest => match arg.toList with
      | '-' :: name => (signal? (String.ofList name), rest)
      | _ => (some "TERM", arg :: rest)
    | [] => (some "TERM", [])
  match name, targets.filter (· ≠ "--") with
  | none, _ => refuse "invalid signal number or name"
  | _, [] => refuse ("Usage: kill [-s sigspec | -signum | -sigspec] [pid | job]... or\n"
      ++ "kill -l [exitstatus]")
  | some name, targets =>
    Run.finish 0
    for target in targets do
      let s ← get
      if target = toString s.process then receive e name
      else if s.background.any fun (n, _) => toString n = target then pure ()
      else if (Text.natural? 10 target.toList).isSome then
        Run.complain "No such process"
        Run.finish 1
      else refuse ("Illegal number: " ++ target)

/-- Says what signals, and the shell's end, start. -/
def trap : Builtin := fun _ args => do
  let s ← get
  match args.filter (· ≠ "--") with
  | [] =>
    let lines := s.traps.map fun (name, action) =>
      "trap -- " ++ quoteText action ++ " " ++ name ++ "\n"
    Run.write 1 (String.join lines)
    Run.finish 0
  | action :: names =>
    let (action, names) := match names with
      | [] => (none, [action])
      | names =>
        if action = "-" then (none, names)
        else if (Text.natural? 10 action.toList).isSome then (none, action :: names)
        else (some action, names)
    Run.finish 0
    for name in names do
      match signal? name with
      | none =>
        Run.write 2 ("trap: " ++ name ++ ": bad trap\n")
        Run.finish 1
      | some name => modify fun s =>
        { s with traps := match action with
            | some text => Keyed.set name text s.traps
            | none => Keyed.erase name s.traps }

/-- Waits for processes, all of which have ended. -/
def wait : Builtin := fun _ args => do
  let s ← get
  match args with
  | [] => Run.finish 0
  | _ =>
    let status := (args.getLast?.bind fun arg =>
      (s.background.find? fun (n, _) => toString n = arg).map Prod.snd).getD 127
    Run.finish status

/-! ## Other scripts -/

/-- Runs a text made of the arguments. -/
def evalBuiltin : Builtin := fun e args => do
  runText e (← get).tested (" ".intercalate args)

/-- Runs a script in the shell itself. -/
def source : Builtin := fun e args => do
  match args with
  | [] => Run.finish 0
  | path :: _ =>
    let s ← get
    if !path.toList.contains '/' then refuse (path ++ ": not found")
    else match s.files.read (Text.Raw.toText path) with
      | .error f => refuse ("cannot open " ++ path ++ ": " ++ openReason "No such file" f)
      | .ok (content, _) =>
        modify fun s => { s with builtin := some path }
        try runText e s.tested (Text.Raw.ofBytes content) catch
          | .returned => return
          | escape => throw escape

/-- A command that only writes. -/
def writing (f : List String → Outcome) : Builtin := fun _ args => Run.deliver (f args)

/-- A command that answers whether a condition holds. -/
def conditionBuiltin (f : FileStore → List String → Except ConditionFault Bool) : Builtin :=
  fun _ args => do
    match f (← get).files args with
    | .ok held => Run.finish (if held then 0 else 1)
    | .error fault => refuse fault.message

/-- Writes formatted text. -/
def printfBuiltin : Builtin := fun _ args => do
  let s ← get
  let start := s.name ++ ": " ++ toString s.line ++ ": "
    ++ (match s.builtin with
      | some name => name ++ ": "
      | none => "")
  Run.deliver (printfOf .shell start args)

/-- The shell's own commands, but for those that start others. -/
def builtins : List (String × Builtin) :=
  [(":", writing fun _ => {}), ("true", writing fun _ => {}),
    ("false", writing fun _ => { status := some 1 }), ("echo", writing shellEcho),
    ("printf", printfBuiltin), ("test", conditionBuiltin holds),
    ("[", conditionBuiltin bracketHolds), ("exit", exit), ("return", leaveFunction),
    ("break", leaveLoops false), ("continue", leaveLoops true), ("shift", shift),
    ("set", setBuiltin), ("getopts", getopts),
    ("export", marking "export" (·.exported) fun v => { v with exported := true }),
    ("readonly", marking "readonly" (·.fixed) fun v => { v with fixed := true }),
    ("local", localBuiltin), ("unset", unset), ("read", readBuiltin), ("cd", cd), ("chdir", cd),
    ("pwd", fun _ _ => do Run.deliver (.say ((← get).here ++ "\n"))), ("umask", umask),
    ("kill", kill), ("trap", trap), ("wait", wait), ("eval", evalBuiltin), (".", source),
    ("times", writing fun _ => .say "0m0.00s 0m0.00s\n0m0.00s 0m0.00s\n"),
    ("hash", writing fun _ => {}), ("alias", writing fun _ => {}), ("jobs", writing fun _ => {}),
    ("ulimit", writing fun _ => .say "unlimited\n")]

end Egress.Host.Shell
