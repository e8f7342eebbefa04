import Egress.Host.Shell.Reader.Word

/-!
# Commands of a script

Reading commands from tokens. A compound command holds lists of commands, and a word can hold one as
well; so each reader here takes the one for what lies a level deeper (`Deeper`), and `atDepth` ties
them together for a number of levels. `nextLine` reads the commands up to a line end, which a shell
runs before it reads on.
-/

set_option autoImplicit false

namespace Egress.Host.Shell

/-- What is read a level deeper. -/
inductive Goal where
  | command
  | list (mayBeEmpty : Bool)

/-- Reads what lies a level deeper. -/
abbrev Deeper := Goal → Reader Command

/-- Commands of the shell that no function can have the name of. -/
def specialNames : List String :=
  [":", ".", "break", "continue", "eval", "exec", "exit", "export", "local", "readonly", "return",
    "set", "shift", "times", "trap", "unset"]

namespace Reader

/-- Reads a list of commands inside a word: up to a closing parenthesis, or as far as it goes. -/
def enclosed (deeper : Deeper) : Enclosed := fun parenthesis => do
  let c ← deeper (.list true)
  match ← takeAhead, parenthesis with
  | .closing, true => return c
  | t, true => fail (.unexpected t.name (some Token.closing.name))
  | _, false => return c

/-- Takes the next token. -/
def next (deeper : Deeper) : Reader Token :=
  nextToken (enclosed deeper)

/-- Takes the next token, which has to be a certain keyword. -/
def expect (deeper : Deeper) (keyword : String) : Reader Unit := do
  let t ← next deeper
  if t.keyword? ≠ some keyword then
    fail (.unexpected t.name (some ("\"" ++ keyword ++ "\"")))

/-- Takes the next token, which has to be a closing parenthesis. -/
def expectClosing (deeper : Deeper) : Reader Unit := do
  match ← next deeper with
  | .closing => return
  | t => fail (.unexpected t.name (some Token.closing.name))

/-- Goes past line ends. -/
def skipNewlines (deeper : Deeper) : Nat → Reader Unit
  | 0 => return
  | n + 1 => do
    match ← next deeper with
    | .newline => skipNewlines deeper n
    | t => putBack t

/-- Goes past all line ends ahead. -/
def skipLines (deeper : Deeper) : Reader Unit := do
  skipNewlines deeper (← bound)

/-- Takes the next token if it is a word. -/
def takeWord? (deeper : Deeper) : Reader (Option Word) := do
  match ← next deeper with
  | .word w => return some w
  | t =>
    putBack t
    return none

/-! ## Redirections -/

/-- The text of a word, and whether something in it is quoted. -/
def delimiterOf (w : Word) : List Char × Bool :=
  (w.flatMap fun
    | .text cs _ => cs
    | .parameter name .. => '$' :: name.toList
    | _ => [],
  w.any fun
    | .quotes => true
    | .text _ quoted => quoted
    | _ => false)

/-- Lines up to one that is a delimiter, their number with it, and what follows. -/
def documentLines (strip : Bool) (delimiter : List Char) :
    Nat → List Char → List Char × Nat × List Char
  | 0, cs => ([], 0, cs)
  | _ + 1, [] => ([], 0, [])
  | n + 1, cs =>
    let line := cs.takeWhile (· ≠ '\n')
    let rest := cs.drop (line.length + 1)
    let line := if strip then line.dropWhile (· = '\t') else line
    if line = delimiter then ([], 1, rest)
    else
      let (lines, count, rest) := documentLines strip delimiter n rest
      (line ++ '\n' :: lines, count + 1, rest)

/-- Takes the lines of a document out of the script: they begin after the current line. -/
def cutDocument (strip : Bool) (delimiter : List Char) : Reader (List Char) := do
  let s ← get
  let line := s.rest.takeWhile (· ≠ '\n')
  let after := s.rest.drop (line.length + 1)
  let (text, count, rest) := documentLines strip delimiter (after.length + 1) after
  set { s with rest := line ++ '\n' :: rest, owed := s.owed + count }
  return text

/-- Reads the text that a descriptor is to read. -/
def document (deeper : Deeper) (strip : Bool) (delimiter : Word) : Reader Word := do
  let (delimiter, literal) := delimiterOf delimiter
  let text ← cutDocument strip delimiter
  if literal then return [.text text true]
  else within text (← get).line do word (enclosed deeper) (← bound) .document

/-- Reads what a redirection's sign is followed by. -/
def redirection (deeper : Deeper) (descriptor : Nat) (direction : Direction) (strip : Bool) :
    Reader (Redirection Word) := do
  match ← next deeper with
  | .word w =>
    if direction = .document then
      return ⟨descriptor, direction, ← document deeper strip w⟩
    else return ⟨descriptor, direction, w⟩
  | t => fail (.unexpected t.name none)

/-- Takes a redirection if one comes next. -/
def takeRedirection? (deeper : Deeper) : Reader (Option (Redirection Word)) := do
  match ← next deeper with
  | .redirection descriptor direction strip =>
    return some (← redirection deeper descriptor direction strip)
  | t =>
    putBack t
    return none

/-! ## Simple commands -/

/-- What has been read of a simple command. -/
structure SimpleParts where
  assignments : List (String × Word) := []
  words : List Word := []
  redirections : List (Redirection Word) := []

/-- The single word of a command that has nothing else. -/
def SimpleParts.only? (p : SimpleParts) : Option Word :=
  match p.assignments, p.words, p.redirections with
  | [], [w], [] => some w
  | _, _, _ => none

/-- Reads a function after its name and the opening parenthesis. -/
def functionOf (deeper : Deeper) (name : Word) : Reader Command := do
  match ← next deeper with
  | .closing => pure ()
  | t => fail (.unexpected t.plainName (some Token.closing.name))
  match name.plain? with
  | some cs =>
    let name := String.ofList cs
    if !isVariableName cs || specialNames.contains name then fail .badFunctionName
    skipLines deeper
    return .define name (← deeper .command)
  | none => fail .badFunctionName

/-- Reads the rest of a simple command, or a function. -/
def simpleRest (deeper : Deeper) (line : Nat) : Nat → SimpleParts → Reader Command
  | 0, _ => fail .tooDeep
  | n + 1, p => do
    match ← next deeper with
    | .word w =>
      match p.words, w.assignment? with
      | [], some a => simpleRest deeper line n { p with assignments := p.assignments ++ [a] }
      | _, _ => simpleRest deeper line n { p with words := p.words ++ [w] }
    | .redirection descriptor direction strip =>
      let r ← redirection deeper descriptor direction strip
      simpleRest deeper line n { p with redirections := p.redirections ++ [r] }
    | t =>
      match t, p.only? with
      | .opening, some name => functionOf deeper name
      | t, _ =>
        putBack t
        return .simple p.assignments p.words p.redirections line

/-! ## Compound commands -/

/-- Reads a choice after its first keyword. -/
def choice (deeper : Deeper) : Nat → Reader Command
  | 0 => fail .tooDeep
  | n + 1 => do
    let test ← deeper (.list false)
    expect deeper "then"
    let yes ← deeper (.list false)
    let t ← next deeper
    if t.keyword? = some "elif" then return .choice test yes (← choice deeper n)
    else if t.keyword? = some "else" then
      let no ← deeper (.list false)
      expect deeper "fi"
      return .choice test yes no
    else
      putBack t
      expect deeper "fi"
      return .choice test yes .nothing

/-- Reads a body between its keywords. -/
def loopBody (deeper : Deeper) : Reader Command := do
  expect deeper "do"
  let body ← deeper (.list false)
  expect deeper "done"
  return body

/-- Reads the values of a loop, or takes all arguments for them. -/
def loopValues (deeper : Deeper) : Reader (List Word) := do
  let t ← next deeper
  if t.keyword? = some "in" then
    let values ← many (takeWord? deeper) (← bound)
    match ← next deeper with
    | .newline => return values
    | .semicolon => return values
    | t => fail (.unexpected t.name none)
  else
    match t with
    | .semicolon => pure ()
    | t => putBack t
    return [[.parameter "@" .value [] true]]

/-- Reads a loop over values after its keyword. -/
def each (deeper : Deeper) : Reader Command := do
  let line := (← get).line
  match ← takeWord? deeper with
  | none => fail .badLoopName
  | some w =>
    let name := w.plain?.getD []
    if !isVariableName name then fail .badLoopName
    skipLines deeper
    let values ← loopValues deeper
    skipLines deeper
    return .each (String.ofList name) values (← loopBody deeper) line

/-- Reads the patterns of a branch from a token on, with the closing parenthesis. That a token is
no pattern shows only in the one after it. -/
def patterns (deeper : Deeper) : Nat → Token → Reader (List Word)
  | 0, _ => fail .tooDeep
  | n + 1, t => do
    let w := match t with
      | .word w => w
      | _ => []
    match ← next deeper with
    | .pipe => return w :: (← patterns deeper n (← next deeper))
    | .closing => return [w]
    | t => fail (.unexpected t.plainName (some Token.closing.name))

/-- Reads branches up to the keyword that ends them. -/
def branches (deeper : Deeper) : Nat → Reader (List (List Word × Command))
  | 0 => fail .tooDeep
  | n + 1 => do
    skipLines deeper
    let t ← next deeper
    if t.keyword? = some "esac" then return []
    let t ← match t with
      | .opening => next deeper
      | t => pure t
    let ws ← patterns deeper (← bound) t
    let body ← deeper (.list true)
    match ← next deeper with
    | .branchEnd => return (ws, body) :: (← branches deeper n)
    | t =>
      if t.keyword? = some "esac" then return [(ws, body)]
      else fail (.unexpected t.name (some Token.branchEnd.name))

/-- Reads a selection after its keyword. -/
def select (deeper : Deeper) : Reader Command := do
  let line := (← get).line
  match ← next deeper with
  | .word subject =>
    skipLines deeper
    expect deeper "in"
    return .select subject (← branches deeper (← bound)) line
  | t => fail (.unexpected t.name (some "word"))

/-- Reads the compound command that a keyword begins. -/
def compound? (deeper : Deeper) (keyword : String) : Option (Reader Command) :=
  match keyword with
  | "if" => some do choice deeper (← bound)
  | "while" => some do return .loop false (← deeper (.list false)) (← loopBody deeper)
  | "until" => some do return .loop true (← deeper (.list false)) (← loopBody deeper)
  | "for" => some (each deeper)
  | "case" => some (select deeper)
  | "\x7b" => some do
    let c ← deeper (.list false)
    expect deeper "\x7d"
    return c
  | _ => none

/-- Reads the redirections that follow a compound command, which begins on a line. -/
def redirected (deeper : Deeper) (line : Nat) (c : Command) : Reader Command := do
  match ← many (takeRedirection? deeper) (← bound) with
  | [] => return c
  | rs => return .redirected c rs line

/-- Reads a command. -/
def commandOf (deeper : Deeper) : Reader Command := do
  let t ← next deeper
  let line := (← get).line
  match t.keyword? with
  | some keyword => match compound? deeper keyword with
    | some r => redirected deeper line (← r)
    | none => fail (.unexpected t.name none)
  | none => match t with
    | .opening =>
      let c ← deeper (.list false)
      expectClosing deeper
      redirected deeper line (.subshell c)
    | .word _ => simple line t
    | .redirection .. => simple line t
    | t => fail (.unexpected t.name none)
where
  /-- Reads a simple command from a token on. -/
  simple (line : Nat) (t : Token) : Reader Command := do
    putBack t
    simpleRest deeper line (← bound) {}

/-! ## Lists -/

/-- Reads what follows a command in a pipeline. -/
def pipedTo? (deeper : Deeper) : Reader (Option Command) := do
  match ← next deeper with
  | .pipe =>
    skipLines deeper
    return some (← deeper .command)
  | t =>
    putBack t
    return none

/-- Reads a pipeline. -/
def pipeline (deeper : Deeper) : Reader Command := do
  let t ← next deeper
  let negated := t.keyword? = some "!"
  if !negated then putBack t
  let first ← deeper .command
  let c ← match ← many (pipedTo? deeper) (← bound) with
    | [] => pure first
    | rest => pure (.pipeline (first :: rest))
  return if negated then .negated c else c

/-- Reads pipelines joined by success or failure to one that is read already. -/
def joined (deeper : Deeper) : Nat → Command → Reader Command
  | 0, _ => fail .tooDeep
  | n + 1, first => do
    match ← next deeper with
    | .andThen =>
      skipLines deeper
      joined deeper n (.ifOk first (← pipeline deeper))
    | .orElse =>
      skipLines deeper
      joined deeper n (.ifFailed first (← pipeline deeper))
    | t =>
      putBack t
      return first

/-- Reads pipelines joined by success or failure. -/
def chain (deeper : Deeper) : Reader Command := do
  let first ← pipeline deeper
  joined deeper (← bound) first

/-- Whether a token ends a list of commands. -/
def endsList (t : Token) : Bool :=
  match t with
  | .closing => true
  | .branchEnd => true
  | t => match t.keyword? with
    | some keyword =>
      ["do", "done", "elif", "else", "esac", "fi", "then", "\x7d"].contains keyword
    | none => false

/-- Commands one after another. -/
def sequence : List Command → Command
  | [] => .nothing
  | [c] => c
  | c :: cs => .followedBy c (sequence cs)

/-- Reads the commands of a list. -/
def commands (deeper : Deeper) : Nat → Bool → Reader (List Command)
  | 0, _ => fail .tooDeep
  | n + 1, mayEnd => do
    skipLines deeper
    match ← peekToken (enclosed deeper) with
    | .ending => return []
    | t =>
      if mayEnd && endsList t then return []
      let c ← chain deeper
      match ← next deeper with
      | .ampersand => return .background c :: (← commands deeper n true)
      | .semicolon => return c :: (← commands deeper n true)
      | .newline => return c :: (← commands deeper n true)
      | t =>
        putBack t
        return [c]

/-- Reads what lies at most so many levels deep. -/
def atDepth : Nat → Deeper
  | 0, _ => fail .tooDeep
  | n + 1, .command => commandOf (atDepth n)
  | n + 1, .list mayBeEmpty => do
    let cs ← commands (atDepth n) (← bound) mayBeEmpty
    return sequence cs

/-! ## Lines -/

/-- Reads the commands up to a line end. -/
def lineCommands (deeper : Deeper) : Nat → Reader (List Command)
  | 0 => fail .tooDeep
  | n + 1 => do
    let c ← chain deeper
    match ← next deeper with
    | .newline => return [c]
    | .ending => return [c]
    | .semicolon => return c :: (← more n)
    | .ampersand => return .background c :: (← more n)
    | t => fail (.unexpected t.name none)
where
  /-- Reads what follows a separator. -/
  more (n : Nat) : Reader (List Command) := do
    match ← next deeper with
    | .newline => return []
    | .ending => return []
    | t =>
      putBack t
      lineCommands deeper n

/-- Reads the commands of the next line that has some; none at the end. -/
def line? (deeper : Deeper) : Reader (Option Command) := do
  skipLines deeper
  match ← next deeper with
  | .ending => return none
  | t =>
    putBack t
    return some (sequence (← lineCommands deeper (← bound)))

end Reader

/-- The commands of the next line that has some, and what is left; none at the end. -/
def Source.nextLine (s : Source) : Except SyntaxFault (Option (Command × Source)) :=
  match (Reader.line? (Reader.atDepth (2 * s.rest.length + 4))).run s with
  | .error e => .error e
  | .ok (none, _) => .ok none
  | .ok (some c, rest) => .ok (some (c, rest))

end Egress.Host.Shell
