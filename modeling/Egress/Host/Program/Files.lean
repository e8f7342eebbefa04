import Egress.Host.FileStore.Change
import Egress.Host.Program.Basic
import Egress.Text.Numeral

/-!
# Programs that deal with files

What a program does, given its arguments and its input, to the files: `touch`, `mkdir`, `rm`, `mv`
and the like. Each argument that fails is complained about, and the others are dealt with.
-/

set_option autoImplicit false

namespace Egress.Host

/-- What a program leaves behind. -/
structure Effect where
  outcome : Outcome := {}
  files : FileStore
  /-- Whether it read its input to the end. -/
  consumed : Bool := false

/-- A program: what it does, given its arguments, its input and the files. Arguments are texts of
bytes. -/
abbrev Program := List String → List UInt8 → FileStore → Effect

/-- A program that only writes. -/
def Program.ofOutcome (f : List String → Outcome) : Program :=
  fun args _ files => { outcome := f args, files }

/-- Options at the start, and the other arguments. -/
def splitOptions (args : List String) : List String × List String :=
  let isOption (arg : String) : Bool := arg.toList.head? = some '-' && arg ≠ "-" && arg ≠ "--"
  match args.dropWhile isOption with
  | "--" :: rest => (args.takeWhile isOption, rest)
  | rest => (args.takeWhile isOption, rest)

/-- Whether options hold a letter. -/
def hasLetter (options : List String) (letter : Char) : Bool :=
  options.any fun option => option.toList.contains letter

/-- Deals with each path in turn; `complaint` says what could not be done. -/
def forEach (complaint : String → String) (act : FileStore → String → Except Fault FileStore)
    (paths : List String) (files : FileStore) : Effect :=
  paths.foldl (fun e path =>
    match act e.files (Text.Raw.toText path) with
    | .ok files => { e with files }
    | .error fault =>
      let text := complaint path ++ ": " ++ fault.reason ++ "\n"
      let errors := e.outcome.errors ++ Text.Raw.toBytes text
      { e with outcome := { e.outcome with errors, status := some 1 } }) { files }

/-- The outcome of a program that lacks an operand. -/
def missingOperand (program what : String) : Outcome :=
  .complain (program ++ ": missing " ++ what ++ "\nTry '" ++ program
    ++ " --help' for more information.\n") 1

/-- Text between single quotes. -/
def inQuotes (s : String) : String :=
  "'" ++ s ++ "'"

/-- Makes files that are missing. -/
def touch : Program := fun args _ files =>
  let (options, paths) := splitOptions args
  if paths.isEmpty then { outcome := missingOperand "touch" "file operand", files }
  else forEach (fun path => "touch: cannot touch " ++ inQuotes path) (fun files path =>
    match files.lookup path with
    | .ok _ => .ok files
    | .error fault =>
      if fault = .noEntry && hasLetter options 'c' then .ok files
      else (files.create path 0o666).map Prod.fst) paths files

/-- The beginnings of a path that end before a slash, and the path. -/
def stations (path : String) : List String :=
  let cs := path.toList
  let cuts := (List.range cs.length).filter fun i => 0 < i && cs[i]? = some '/'
  cuts.map (fun i => String.ofList (cs.take i)) ++ [path]

/-- Makes directories. -/
def mkdir : Program := fun args _ files =>
  let (options, paths) := splitOptions args
  if paths.isEmpty then { outcome := missingOperand "mkdir" "operand", files }
  else forEach (fun path => "mkdir: cannot create directory " ++ inQuotes path)
    (fun files path =>
      if hasLetter options 'p' then
        (stations path).foldlM (fun files station =>
          match files.newDirectory station 0o777 with
          | .error .taken => match files.lookup station with
            | .ok (_, .directory _) => .ok files
            | _ => .error .taken
          | made => made) files
      else files.newDirectory path 0o777) paths files

/-- Removes empty directories. -/
def rmdir : Program := fun args _ files =>
  let (_, paths) := splitOptions args
  if paths.isEmpty then { outcome := missingOperand "rmdir" "operand", files }
  else forEach (fun path => "rmdir: failed to remove " ++ inQuotes path)
    (fun files path => files.removeDirectory path) paths files

/-- Removes what a path leads to, with all below it. -/
def removeTree (files : FileStore) (path : String) : Except Fault FileStore := do
  let (l, e) ← files.lookup path
  files.mayChange l.dropLast
  if e.isDirectory && !files.isEmptyAt l then files.mayChange l
  return { files with entries := files.entries.filter fun (k, _) => !l.isPrefixOf k }

/-- Removes files. -/
def rm : Program := fun args _ files =>
  let (options, paths) := splitOptions args
  let force := hasLetter options 'f'
  let deep := hasLetter options 'r' || hasLetter options 'R'
  if paths.isEmpty then
    { outcome := if force then {} else missingOperand "rm" "operand", files }
  else forEach (fun path => "rm: cannot remove " ++ inQuotes path) (fun files path =>
    match if deep then removeTree files path else files.unlink path with
    | .error .noEntry => if force then .ok files else .error .noEntry
    | removed => removed) paths files

/-- The last name of a path. -/
def baseName (path : String) : String :=
  match ((Text.pieces '/' path.toList).filter (!·.isEmpty)).getLast? with
  | some name => String.ofList name
  | none => if path = "" then "" else "/"

/-- Where something is put that is moved or copied to a path. -/
def placeFor (files : FileStore) (source destination : String) : String :=
  match files.lookup (Text.Raw.toText destination) with
  | .ok (_, .directory _) => destination ++ "/" ++ baseName source
  | _ => destination

/-- Moves files. -/
def mv : Program := fun args _ files =>
  let (_, paths) := splitOptions args
  match paths.reverse with
  | [] => { outcome := missingOperand "mv" "file operand", files }
  | [only] =>
    { outcome := missingOperand "mv" ("destination file operand after " ++ inQuotes only), files }
  | destination :: sources =>
    forEach (fun path =>
      match files.lookup (Text.Raw.toText path) with
      | .error _ => "mv: cannot stat " ++ inQuotes path
      | .ok _ => "mv: cannot move " ++ inQuotes path ++ " to "
        ++ inQuotes (placeFor files path destination)) (fun files path => do
      let _ ← files.lookup path
      files.rename path (Text.Raw.toText
        (placeFor files (Text.Raw.ofText path) destination))) sources.reverse files

/-- Copies files. -/
def cp : Program := fun args _ files =>
  let (_, paths) := splitOptions args
  match paths.reverse with
  | [] => { outcome := missingOperand "cp" "file operand", files }
  | [only] =>
    { outcome := missingOperand "cp" ("destination file operand after " ++ inQuotes only), files }
  | destination :: sources =>
    forEach (fun path =>
      match files.lookup (Text.Raw.toText path) with
      | .error _ => "cp: cannot stat " ++ inQuotes path
      | .ok _ => "cp: cannot create regular file "
        ++ inQuotes (placeFor files path destination)) (fun files path => do
      let (content, mode) ← files.read path
      let place := placeFor files (Text.Raw.ofText path) destination
      let (files, l) ← files.create (Text.Raw.toText place) (mode % 0o1000)
      match files.entry? l with
      | some e => return files.put l (.file content e.mode)
      | none => return files) sources.reverse files

/-- What a letter of a mode stands for. -/
def modeBits : Char → Nat
  | 'r' => 4
  | 'w' => 2
  | 'x' => 1
  | _ => 0

/-- Whether a bit of three is set. -/
def hasBit (bits bit : Nat) : Bool :=
  bits / bit % 2 = 1

/-- Bits of two threes joined (`add`), or of the first without the second. -/
def changeBits (add : Bool) (old change : Nat) : Nat :=
  [4, 2, 1].foldl (fun n bit =>
    let set := if add then hasBit old bit || hasBit change bit
      else hasBit old bit && !hasBit change bit
    if set then n + bit else n) 0

/-- The mode that a clause of letters makes of an old one. -/
def modeClause? (old : Nat) (clause : List Char) : Option Nat :=
  let who := clause.takeWhile ['u', 'g', 'o', 'a'].contains
  match clause.drop who.length with
  | op :: letters =>
    if !(['+', '-', '='].contains op) || !letters.all ['r', 'w', 'x'].contains then none
    else
      let change := changeBits true (letters.foldl (fun n c => changeBits true n (modeBits c)) 0) 0
      let concerns (c : Char) : Bool := who.isEmpty || who.contains 'a' || who.contains c
      let apply (c : Char) (bits : Nat) : Nat :=
        if !concerns c then bits
        else
          let change := if who.isEmpty && c ≠ 'u' then changeBits false change 2 else change
          if op = '=' then change else changeBits (op = '+') bits change
      some (old / 512 * 512 + apply 'u' (old / 64 % 8) * 64 + apply 'g' (old / 8 % 8) * 8
        + apply 'o' (old % 8))
  | [] => none

/-- The mode that a text makes of an old one. -/
def modeFor? (old : Nat) (text : String) : Option Nat :=
  match Text.natural? 8 text.toList with
  | some n => if n < 0o10000 then some n else none
  | none => (Text.pieces ',' text.toList).foldlM modeClause? old

/-- Changes permission bits. -/
def chmod : Program := fun args _ files =>
  match args with
  | [] => { outcome := missingOperand "chmod" "operand", files }
  | mode :: paths =>
    if paths.isEmpty then
      { outcome := missingOperand "chmod" ("operand after " ++ inQuotes mode), files }
    else if (modeFor? 0 mode).isNone then
      { outcome := .complain ("chmod: invalid mode: " ++ inQuotes mode
          ++ "\nTry 'chmod --help' for more information.\n") 1, files }
    else forEach (fun path => "chmod: cannot access " ++ inQuotes path) (fun files path => do
      let (_, e) ← files.lookup path
      files.setMode path ((modeFor? e.mode mode).getD e.mode)) paths files

/-- Lists files. -/
def ls : Program := fun args _ files =>
  let (options, paths) := splitOptions args
  let shown (names : List String) : List String :=
    let names := if hasLetter options 'a' then "." :: ".." :: names else names
    let all := hasLetter options 'a' || hasLetter options 'A'
    (names.filter fun name => all || name.toList.head? ≠ some '.').mergeSort fun a b => !(b < a)
  let lines (names : List String) : String := String.join (names.map (· ++ "\n"))
  let paths := if paths.isEmpty then ["."] else paths.mergeSort fun a b => !(b < a)
  let look (path : String) := files.lookup (Text.Raw.toText path)
  let missing := paths.filterMap fun path => match look path with
    | .error fault => some ("ls: cannot access " ++ inQuotes path ++ ": " ++ fault.reason ++ "\n")
    | .ok (_, .file ..) => none
    | .ok (_, .directory mode) =>
      if mayRead mode || hasLetter options 'd' then none
      else some ("ls: cannot open directory " ++ inQuotes path ++ ": Permission denied\n")
  let single := paths.filter fun path => match look path with
    | .ok (_, e) => !e.isDirectory || hasLetter options 'd'
    | .error _ => false
  let directories := paths.filterMap fun path => match look path with
    | .ok (l, .directory mode) =>
      if hasLetter options 'd' || !mayRead mode then none
      else some (path, shown ((files.namesAt l).map Text.Raw.ofText))
    | _ => none
  let blocks := directories.map fun (path, names) =>
    (if paths.length = 1 then "" else path ++ ":\n") ++ lines names
  let blocks := if single.isEmpty then blocks else lines single :: blocks
  { outcome :=
      { output := Text.Raw.toBytes ("\n".intercalate blocks)
        errors := Text.Raw.toBytes (String.join missing)
        status := some (if missing.isEmpty then 0 else 2) }
    files }

/-- Writes the last name of a path, without an end. -/
def basename (args : List String) : Outcome :=
  match args with
  | [] => missingOperand "basename" "operand"
  | path :: rest =>
    let name := baseName path
    let cut := rest.headD ""
    let cs := name.toList
    if cut.toList.isSuffixOf cs && cut ≠ name then
      .say (String.ofList (cs.take (cs.length - cut.length)) ++ "\n")
    else .say (name ++ "\n")

/-- Writes paths without their last names. -/
def dirname (args : List String) : Outcome :=
  if args.isEmpty then missingOperand "dirname" "operand"
  else .say (String.join (args.map fun path =>
    let slash (c : Char) : Bool := c = '/'
    let cs := path.toList.reverse.dropWhile slash
    let dir := ((cs.dropWhile (!slash ·)).dropWhile slash).reverse
    let dir := if dir.isEmpty then (if path.toList.head? = some '/' then ['/'] else ['.']) else dir
    String.ofList dir ++ "\n"))

/-- Writes the current directory. -/
def pwd : Program := fun _ _ files =>
  { outcome := .say (Text.Raw.ofText ("/" ++ "/".intercalate files.cwd) ++ "\n"), files }

end Egress.Host
