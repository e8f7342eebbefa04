/-!
# Shell commands

The commands that a script consists of, and the words in them. A word is a list of parts, which
keep apart what is quoted and what is not, since that decides how many words it becomes; a part can
hold a command whose output it stands for.
-/

set_option autoImplicit false

namespace Egress.Host.Shell

/-- What a parameter in braces stands for. `empty` counts an empty value as none. -/
inductive Use where
  | value
  | length
  /-- The value, or else a word. -/
  | orElse (empty : Bool)
  /-- The value, or else a word that becomes the value. -/
  | assign (empty : Bool)
  /-- The value, or else a complaint. -/
  | demand (empty : Bool)
  /-- A word if there is a value. -/
  | instead (empty : Bool)
  /-- The value without the shortest or longest piece at one end that fits a pattern. -/
  | cut (atEnd longest : Bool)
  | malformed
  deriving DecidableEq, Repr

/-- What a redirection does to a descriptor. -/
inductive Direction where
  | read
  /-- Writes a file, perhaps only if it is new. -/
  | write
  | overwrite
  | append
  | readWrite
  /-- Makes it the same as another descriptor. -/
  | duplicate
  /-- Lets it read a text of the script. -/
  | document
  deriving DecidableEq, Repr

/-- A redirection of a descriptor to what a word names. -/
structure Redirection (α : Type) where
  descriptor : Nat
  direction : Direction
  target : α

mutual

/-- A part of a word. -/
inductive Part where
  | text (cs : List Char) (quoted : Bool)
  /-- Quotes, which make a word even of nothing. -/
  | quotes
  | parameter (name : String) (use : Use) (word : List Part) (quoted : Bool)
  /-- The output of a command. -/
  | output (c : Command) (quoted : Bool)
  /-- The value of an arithmetic expression. -/
  | arithmetic (expression : List Part) (quoted : Bool)
  /-- The home directory. -/
  | home

/-- A command. -/
inductive Command where
  | nothing
  | simple (assignments : List (String × List Part)) (words : List (List Part))
      (redirections : List (Redirection (List Part))) (line : Nat)
  | redirected (c : Command) (redirections : List (Redirection (List Part))) (line : Nat)
  /-- Commands of which each reads what the one before it writes. -/
  | pipeline (cs : List Command)
  | negated (c : Command)
  | background (c : Command)
  | followedBy (first second : Command)
  | ifOk (first second : Command)
  | ifFailed (first second : Command)
  | choice (test yes no : Command)
  /-- Runs the body as long as the test succeeds, or fails. -/
  | loop (untilOk : Bool) (test body : Command)
  /-- Runs the body for each value of a name. -/
  | each (name : String) (values : List (List Part)) (body : Command) (line : Nat)
  /-- Runs the command of the first branch with a pattern that fits. -/
  | select (subject : List Part) (branches : List (List (List Part) × Command)) (line : Nat)
  | subshell (c : Command)
  | define (name : String) (body : Command)

end

/-- A word. -/
abbrev Word := List Part

/-- Whether a character can begin the name of a variable. -/
def isNameStart (c : Char) : Bool :=
  c.isAlpha || c = '_'

/-- Whether a character can stand in the name of a variable. -/
def isNameChar (c : Char) : Bool :=
  c.isAlphanum || c = '_'

/-- Whether a text is the name of a variable. -/
def isVariableName : List Char → Bool
  | [] => false
  | c :: cs => isNameStart c && cs.all isNameChar

/-- Whether a character is the name of a parameter that the shell sets. -/
def isSpecial (c : Char) : Bool :=
  ['@', '*', '#', '?', '-', '$', '!', '0'].contains c

/-- Puts a character in front of a word. -/
def Word.cons (c : Char) (quoted : Bool) : Word → Word
  | .text cs q :: rest => if q = quoted then .text (c :: cs) q :: rest
    else .text [c] quoted :: .text cs q :: rest
  | w => .text [c] quoted :: w

/-- The text of a word in which nothing is quoted or replaced. -/
def Word.plain? : Word → Option (List Char)
  | [.text cs false] => some cs
  | _ => none

/-- Name and value of the assignment that a word is. -/
def Word.assignment? : Word → Option (String × Word)
  | .text cs false :: rest =>
    let name := cs.takeWhile (· ≠ '=')
    match cs.drop name.length with
    | _ :: value =>
      if isVariableName name then
        some (String.ofList name, if value.isEmpty then rest else .text value false :: rest)
      else none
    | [] => none
  | _ => none

end Egress.Host.Shell
