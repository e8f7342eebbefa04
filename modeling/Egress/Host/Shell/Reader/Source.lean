import Egress.Host.Shell.Command

/-!
# Text of a script being read

A script is read from the front: by characters, where a backslash before a line end joins two lines,
and by tokens, of which one can be looked at ahead. Where a script is malformed the reader stops
with the line and the problem.
-/

set_option autoImplicit false

namespace Egress.Host.Shell

/-- A word or an operator of a script. -/
inductive Token where
  | ending
  | newline
  | semicolon
  | ampersand
  | andThen
  | orElse
  | pipe
  | opening
  | closing
  | branchEnd
  /-- A redirection's sign; `strip` drops tabs from the lines of a document. -/
  | redirection (descriptor : Nat) (direction : Direction) (strip : Bool)
  | word (w : Word)

/-- Words that are no plain words where a command can begin. -/
def keywords : List String :=
  ["!", "case", "do", "done", "elif", "else", "esac", "fi", "for", "if", "in", "then", "until",
    "while", "\x7b", "\x7d"]

/-- The keyword that a token can be. -/
def Token.keyword? : Token → Option String
  | .word w => w.plain?.bind fun cs => keywords.find? (·.toList = cs)
  | _ => none

/-- How a complaint names a token that cannot be a keyword. -/
def Token.plainName : Token → String
  | .ending => "end of file"
  | .newline => "newline"
  | .semicolon => "\";\""
  | .ampersand => "\"&\""
  | .andThen => "\"&&\""
  | .orElse => "\"||\""
  | .pipe => "\"|\""
  | .opening => "\"(\""
  | .closing => "\")\""
  | .branchEnd => "\";;\""
  | .redirection .. => "redirection"
  | .word _ => "word"

/-- How a complaint names a token. -/
def Token.name (t : Token) : String :=
  match t.keyword? with
  | some keyword => "\"" ++ keyword ++ "\""
  | none => t.plainName

/-- Why a script is not run. -/
inductive Problem where
  | openQuote
  | openBrace
  | openSum
  | openBackquote
  | badLoopName
  | badFunctionName
  | badDescriptor
  /-- A token that does not fit, and the one that would. -/
  | unexpected (found : String) (wanted : Option String)
  /-- Commands are nested deeper than a script of this length can nest them. -/
  | tooDeep
  deriving DecidableEq, Repr

/-- The wording of a problem. -/
def Problem.message : Problem → String
  | .openQuote => "Unterminated quoted string"
  | .openBrace => "Missing '\x7d'"
  | .openSum => "Missing '))'"
  | .openBackquote => "EOF in backquote substitution"
  | .badLoopName => "Bad for loop variable"
  | .badFunctionName => "Bad function name"
  | .badDescriptor => "Bad fd number"
  | .unexpected found none => found ++ " unexpected"
  | .unexpected found (some wanted) => found ++ " unexpected (expecting " ++ wanted ++ ")"
  | .tooDeep => "Nested too deeply"

/-- A problem and the line on which it shows. -/
structure SyntaxFault where
  line : Nat
  problem : Problem
  deriving DecidableEq, Repr

/-- What is left of a script. -/
structure Source where
  rest : List Char
  line : Nat := 1
  /-- Lines that were taken out after the current one. -/
  owed : Nat := 0
  /-- A token that was read ahead. -/
  ahead : Option Token := none

/-- Reads a script. -/
abbrev Reader := StateT Source (Except SyntaxFault)

namespace Reader

/-- Stops with a problem. -/
def fail {α : Type} (p : Problem) : Reader α := do
  throw ⟨(← get).line, p⟩

/-- More than the number of the characters that are left. -/
def bound : Reader Nat := do
  return (← get).rest.length + 2

/-! ## Characters -/

/-- The characters without the joints of lines at the start, and their number. -/
def withoutJoints : List Char → Nat × List Char
  | '\\' :: '\n' :: cs =>
    let (n, rest) := withoutJoints cs
    (n + 1, rest)
  | cs => (0, cs)

/-- The next character, as it stands. -/
def peekRaw? : Reader (Option Char) := do
  return (← get).rest.head?

/-- Goes past a character. -/
def advance : Reader Unit :=
  modify fun s => match s.rest with
    | '\n' :: rest => { s with rest, line := s.line + 1 + s.owed, owed := 0 }
    | _ :: rest => { s with rest }
    | [] => s

/-- The next character after joints of lines. -/
def peek? : Reader (Option Char) := do
  let s ← get
  let (n, rest) := withoutJoints s.rest
  set { s with rest, line := s.line + n }
  return rest.head?

/-- Goes past characters that fit, and gives them. -/
def takeWhile (p : Char → Bool) : Nat → Reader (List Char)
  | 0 => return []
  | n + 1 => do
    match ← peek? with
    | none => return []
    | some c =>
      if p c then
        advance
        return c :: (← takeWhile p n)
      else return []

/-- Goes past a character if it is the next one. -/
def skip? (c : Char) : Reader Bool := do
  if (← peek?) = some c then
    advance
    return true
  else return false

/-- Reads another text, whose lines are counted from a number on, and goes on as before. -/
def within {α : Type} (text : List Char) (line : Nat) (r : Reader α) : Reader α := do
  let s ← get
  set { s with rest := text, line, owed := 0, ahead := none }
  let a ← r
  set s
  return a

/-- Reads as often as there is something. -/
def many {α : Type} (r : Reader (Option α)) : Nat → Reader (List α)
  | 0 => return []
  | n + 1 => do
    match ← r with
    | none => return []
    | some a => return a :: (← many r n)

end Reader

end Egress.Host.Shell
