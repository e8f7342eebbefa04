import Egress.Host.Shell.Reader.Source

/-!
# Words of a script

Reading a word: its quotes, its parameters, the commands and the expressions in it. What ends a word
and what can be quoted in it depends on where it stands (`Setting`). Lists of commands inside a word
are read by a reader that is given.
-/

set_option autoImplicit false

namespace Egress.Host.Shell

/-- Where a part of a word stands. -/
inductive Setting where
  | plain
  /-- Between double quotes. -/
  | quoted
  /-- After the name of a parameter in braces, which can stand between double quotes. -/
  | braces (inQuotes : Bool)
  /-- In a text that a descriptor reads. -/
  | document
  /-- In an arithmetic expression, below so many parentheses of its own. -/
  | sum (depth : Nat)
  deriving DecidableEq, Repr

/-- Whether text is quoted there. -/
def Setting.isQuoted : Setting → Bool
  | .plain => false
  | .braces inQuotes => inQuotes
  | _ => true

/-- Characters that end a word that is not quoted. -/
def wordEnds : List Char :=
  [' ', '\t', '\n', ';', '&', '|', '<', '>', '(', ')']

/-- Whether a backslash takes the meaning of a character there. -/
def Setting.escapes (s : Setting) (c : Char) : Bool :=
  match s with
  | .plain => true
  | .braces false => true
  | .braces true => ['$', '\x60', '"', '\\', '\x7d'].contains c
  | .document => ['$', '\x60', '\\'].contains c
  | _ => ['$', '\x60', '"', '\\'].contains c

/-- What is wrong when the script ends there. -/
def Setting.openProblem? : Setting → Option Problem
  | .plain => none
  | .document => none
  | .quoted => some .openQuote
  | .braces _ => some .openBrace
  | .sum _ => some .openSum

/-- Reads a list of commands inside a word: up to a closing parenthesis, or as far as it goes. -/
abbrev Enclosed := Bool → Reader Command

namespace Reader

/-- Whether a character that comes next ends a word there. -/
def endsAt (setting : Setting) (c : Char) : Reader Bool := do
  match setting with
  | .plain => return wordEnds.contains c
  | .quoted => return c = '"'
  | .braces _ => return c = '\x7d'
  | .document => return false
  | .sum depth => return depth = 0 && "))".toList.isPrefixOf (← get).rest

/-- Reads up to the closing single quote. -/
def singleQuoted : Reader (List Char) := do
  let cs := (← get).rest.takeWhile (· ≠ '\'')
  for _ in cs do advance
  if (← peekRaw?).isNone then fail .openQuote
  advance
  return cs

/-- Reads up to the closing backquote. -/
def backquoted (quoted : Bool) : Nat → Reader (List Char)
  | 0 => fail .tooDeep
  | n + 1 => do
    match ← peek? with
    | none => fail .openBackquote
    | some c =>
      advance
      if c = '\x60' then return []
      else if c = '\\' then
        match ← peekRaw? with
        | none => fail .openBackquote
        | some d =>
          advance
          let rest ← backquoted quoted n
          if ['\\', '$', '\x60'].contains d || (quoted && d = '"') then return d :: rest
          else return c :: d :: rest
      else return c :: (← backquoted quoted n)

/-! ## Parameters -/

/-- What the sign after a parameter's name makes of it. -/
def useOf? (colon : Bool) : Char → Option Use
  | '\x7d' => some .value
  | '-' => some (.orElse colon)
  | '=' => some (.assign colon)
  | '?' => some (.demand colon)
  | '+' => some (.instead colon)
  | '#' => if colon then none else some (.cut false false)
  | '%' => if colon then none else some (.cut true false)
  | _ => none

/-- Goes past a character that is no part of a line, whatever it is. -/
def swallow : Reader Unit :=
  modify fun s => { s with rest := s.rest.drop 1 }

/-- Reads to the closing brace of a parameter that makes no sense. -/
def malformed (word : Setting → Reader Word) (quoted : Bool) : Reader Part := do
  let _ ← word (.braces quoted)
  advance
  return .parameter "" .malformed [] quoted

/-- Reads what follows a parameter's name in braces, with the closing brace. -/
def parameterUse (word : Setting → Reader Word) (quoted : Bool) (name : String) :
    Reader Part := do
  let colon ← skip? ':'
  match ← peek? with
  | none => fail .openBrace
  | some c =>
    if c = '\x7d' && !colon then
      advance
      return .parameter name .value [] quoted
    else match useOf? colon c with
      | none =>
        swallow
        malformed word quoted
      | some (.cut atEnd _) =>
        advance
        let longest ← skip? c
        let w ← word (.braces false)
        advance
        return .parameter name (.cut atEnd longest) w quoted
      | some use =>
        advance
        let w ← word (.braces quoted)
        advance
        return .parameter name use w quoted

/-- Reads the name of a variable or a number. -/
def parameterName (c : Char) : Reader String := do
  let cs ← takeWhile (if c.isDigit then Char.isDigit else isNameChar) (← bound)
  return String.ofList cs

/-- Reads a parameter in braces after a number sign. -/
def parameterLength (word : Setting → Reader Word) (quoted : Bool) : Reader Part := do
  match ← peek? with
  | none => fail .openBrace
  | some c =>
    if isNameChar c then
      let name ← parameterName c
      if ← skip? '\x7d' then return .parameter name .length [] quoted
      else malformed word quoted
    else if isSpecial c && (← get).rest.tail.head? = some '\x7d' then
      advance
      advance
      return .parameter (String.ofList [c]) .length [] quoted
    else parameterUse word quoted "#"

/-- Reads a parameter after its opening brace. -/
def bracedParameter (word : Setting → Reader Word) (quoted : Bool) : Reader Part := do
  match ← peek? with
  | none => fail .openBrace
  | some c =>
    if isNameChar c then parameterUse word quoted (← parameterName c)
    else if c = '#' then
      advance
      parameterLength word quoted
    else if isSpecial c then
      advance
      parameterUse word quoted (String.ofList [c])
    else
      if c ≠ '\x7d' then swallow
      malformed word quoted

/-- Reads what a dollar sign begins. -/
def dollar (enclosed : Enclosed) (word : Setting → Reader Word) (quoted : Bool) :
    Reader Part := do
  match ← peek? with
  | none => return .text ['$'] quoted
  | some c =>
    if c = '(' then
      advance
      if ← skip? '(' then
        let e ← word (.sum 0)
        advance
        advance
        return .arithmetic e quoted
      else return .output (← enclosed true) quoted
    else if c = '\x7b' then
      advance
      bracedParameter word quoted
    else if isNameStart c then
      return .parameter (← parameterName c) .value [] quoted
    else if c.isDigit || isSpecial c then
      advance
      return .parameter (String.ofList [c]) .value [] quoted
    else return .text ['$'] quoted

/-! ## Words -/

/-- Whether parts between double quotes are nothing but all arguments. -/
def isAllArguments : Word → Bool
  | [.parameter "@" .value _ _] => true
  | _ => false

/-- Parts between double quotes as parts of a word. -/
def quotedParts (w : Word) : Word :=
  if isAllArguments w then w else .quotes :: w

/-- Reads the parts of a word up to where the setting ends it. `n` bounds the characters. -/
def word (enclosed : Enclosed) : Nat → Setting → Reader Word
  | 0, _ => fail .tooDeep
  | n + 1, setting => do
    let quoted := setting.isQuoted
    match ← peek? with
    | none => match setting.openProblem? with
      | some p => fail p
      | none => return []
    | some c =>
      if ← endsAt setting c then return []
      advance
      match c with
      | '\\' => match ← peekRaw? with
        | none => return .cons '\\' true (← word enclosed n setting)
        | some d =>
          advance
          let rest ← word enclosed n setting
          if setting.escapes d then return .cons d true rest
          else return .cons '\\' quoted (.cons d quoted rest)
      | '$' =>
        let p ← dollar enclosed (word enclosed n) quoted
        return p :: (← word enclosed n setting)
      | '\x60' =>
        let text ← backquoted quoted (← bound)
        let c ← within text 1 (enclosed false)
        return .output c quoted :: (← word enclosed n setting)
      | '\'' =>
        if quoted then return .cons c true (← word enclosed n setting)
        else
          let text ← singleQuoted
          return .quotes :: .text text true :: (← word enclosed n setting)
      | '"' => match setting with
        | .document => return .cons c true (← word enclosed n setting)
        | .sum _ => return .cons c true (← word enclosed n setting)
        | _ =>
          let inner ← word enclosed n .quoted
          advance
          return quotedParts inner ++ (← word enclosed n setting)
      | '(' => match setting with
        | .sum depth => return .cons c true (← word enclosed n (.sum (depth + 1)))
        | _ => return .cons c quoted (← word enclosed n setting)
      | ')' => match setting with
        | .sum depth => return .cons c true (← word enclosed n (.sum (depth - 1)))
        | _ => return .cons c quoted (← word enclosed n setting)
      | _ => return .cons c quoted (← word enclosed n setting)

/-- A tilde at the start of a word that names the home directory. -/
def withHome : Word → Word
  | .text ['~'] false :: rest => match rest with
    | [] => [.home]
    | rest => .text ['~'] false :: rest
  | .text ('~' :: '/' :: cs) false :: rest => .home :: .text ('/' :: cs) false :: rest
  | w => w

/-! ## Tokens -/

/-- Reads what an angle bracket begins. -/
def redirectionSign (descriptor : Option Nat) (c : Char) : Reader Token := do
  if c = '<' then
    let sign (d : Direction) (strip : Bool) : Token :=
      .redirection (descriptor.getD 0) d strip
    if ← skip? '<' then return sign .document (← skip? '-')
    else if ← skip? '&' then return sign .duplicate false
    else if ← skip? '>' then return sign .readWrite false
    else return sign .read false
  else
    let sign (d : Direction) : Token := .redirection (descriptor.getD 1) d false
    if ← skip? '>' then return sign .append
    else if ← skip? '&' then return sign .duplicate
    else if ← skip? '|' then return sign .overwrite
    else return sign .write

/-- Reads a word, or the sign of a redirection that begins with a digit. -/
def wordToken (enclosed : Enclosed) : Reader Token := do
  let w ← word enclosed (← bound) .plain
  match w.plain?, ← peekRaw? with
  | some [d], some c =>
    if d.isDigit && (c = '<' || c = '>') then
      advance
      redirectionSign (some (d.toNat - 48)) c
    else return .word (withHome w)
  | _, _ => return .word (withHome w)

/-- Reads a token. `n` bounds the characters. -/
def token (enclosed : Enclosed) : Nat → Reader Token
  | 0 => fail .tooDeep
  | n + 1 => do
    match ← peek? with
    | none => return .ending
    | some c =>
      let double (twice once : Token) : Reader Token := do
        advance
        return if ← skip? c then twice else once
      match c with
      | ' ' =>
        advance
        token enclosed n
      | '\t' =>
        advance
        token enclosed n
      | '#' =>
        modify fun s => { s with rest := s.rest.dropWhile (· ≠ '\n') }
        token enclosed n
      | '\n' =>
        advance
        return .newline
      | ';' => double .branchEnd .semicolon
      | '&' => double .andThen .ampersand
      | '|' => double .orElse .pipe
      | '(' =>
        advance
        return .opening
      | ')' =>
        advance
        return .closing
      | '<' =>
        advance
        redirectionSign none c
      | '>' =>
        advance
        redirectionSign none c
      | _ => wordToken enclosed

/-- Takes the next token. -/
def nextToken (enclosed : Enclosed) : Reader Token := do
  let s ← get
  match s.ahead with
  | some t =>
    set { s with ahead := none }
    return t
  | none => token enclosed (← bound)

/-- Lets a token be the next one again. -/
def putBack (t : Token) : Reader Unit :=
  modify fun s => { s with ahead := some t }

/-- The next token, which stays. -/
def peekToken (enclosed : Enclosed) : Reader Token := do
  let t ← nextToken enclosed
  putBack t
  return t

/-- The token that was read ahead. -/
def takeAhead : Reader Token := do
  let s ← get
  set { s with ahead := none }
  return s.ahead.getD .ending

end Reader

end Egress.Host.Shell
