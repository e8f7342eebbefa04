import Egress.Host.Shell.Command
import Egress.Host.Program.Printf
import Egress.Keyed

/-!
# Arithmetic of the shell

Expressions over numbers of 64 bits and variables. An expression is read from lexemes by precedence
and then evaluated; assignments in it are gathered, so that reading a variable sees them. Where it
is malformed it has a place that is `broken`: what stands before is evaluated first, so that of two
faults the one further left is found.
-/

set_option autoImplicit false

namespace Egress.Host.Shell

/-- Why an expression has no value. -/
inductive ArithmeticFault where
  | expectingPrimary
  | expectingParenthesis
  | expectingColon
  | expectingEnd
  | divisionByZero
  /-- A variable that does not hold a number. -/
  | badNumber (text : String)
  /-- A variable that is not set. -/
  | unset (name : String)
  deriving DecidableEq, Repr

/-- An expression. -/
inductive Expression where
  | number (n : Int)
  | named (name : String)
  | unary (op : Char) (e : Expression)
  | binary (op : String) (a b : Expression)
  | both (a b : Expression)
  | either (a b : Expression)
  | choice (c a b : Expression)
  /-- Gives a variable a value, from its old one if there is an operation. -/
  | assign (name : String) (op : Option String) (e : Expression)
  /-- An expression after which something is malformed. -/
  | broken (e : Expression) (f : ArithmeticFault)

/-- A lexeme of an expression. -/
inductive ExpressionLexeme where
  | number (n : Nat)
  | name (s : String)
  | sign (s : String)
  deriving DecidableEq, Repr

/-! ## Lexemes -/

/-- Signs, longer ones before their beginnings. -/
def expressionSigns : List String :=
  ["<<=", ">>=", "<<", ">>", "<=", ">=", "==", "!=", "&&", "||", "+=", "-=", "*=", "/=", "%=",
    "&=", "^=", "|=", "+", "-", "*", "/", "%", "<", ">", "=", "!", "~", "&", "^", "|", "?", ":",
    "(", ")"]

/-- Lexemes of a text; `fuel` bounds the characters. A character that begins none is a sign of its
own that fits nowhere. -/
def expressionLexemes : Nat → List Char → List ExpressionLexeme
  | 0, _ => []
  | _ + 1, [] => []
  | n + 1, c :: cs =>
    if c = ' ' || c = '\t' || c = '\n' then expressionLexemes n cs
    else if c.isDigit then
      let (base, digits) := digitsOfBase (c :: cs)
      let (value, rest) := digitsAhead base digits.length 0 digits
      .number (min value Text.maxInteger.toNat) :: expressionLexemes n rest
    else if isNameStart c then
      let name := (c :: cs).takeWhile isNameChar
      .name (String.ofList name) :: expressionLexemes n ((c :: cs).drop name.length)
    else match expressionSigns.find? fun s => s.toList.isPrefixOf (c :: cs) with
      | some s => .sign s :: expressionLexemes n ((c :: cs).drop s.length)
      | none => .sign (String.ofList [c]) :: expressionLexemes n cs

/-! ## Reading -/

/-- How tightly a sign between two expressions binds, from loosely to tightly. -/
def precedence? : String → Option Nat
  | "||" => some 1
  | "&&" => some 2
  | "|" => some 3
  | "^" => some 4
  | "&" => some 5
  | "==" => some 6
  | "!=" => some 6
  | "<" => some 7
  | "<=" => some 7
  | ">" => some 7
  | ">=" => some 7
  | "<<" => some 8
  | ">>" => some 8
  | "+" => some 9
  | "-" => some 9
  | "*" => some 10
  | "/" => some 10
  | "%" => some 10
  | _ => none

/-- The operation of an assignment's sign. -/
def assignment? (sign : String) : Option (Option String) :=
  if sign = "=" then some none
  else if ["<<=", ">>=", "+=", "-=", "*=", "/=", "%=", "&=", "^=", "|="].contains sign then
    some (some (String.ofList sign.toList.dropLast))
  else none

/-- Two expressions with a sign between them. -/
def Expression.join (sign : String) (a b : Expression) : Expression :=
  match sign with
  | "&&" => .both a b
  | "||" => .either a b
  | sign => .binary sign a b

/-- An expression in whose place there is none. -/
def Expression.missing : Expression :=
  .broken (.number 0) .expectingPrimary

mutual

/-- Reads an expression that can be an assignment. -/
def expression : Nat → List ExpressionLexeme → Expression × List ExpressionLexeme
  | 0, _ => (.missing, [])
  | n + 1, .name x :: .sign s :: rest =>
    match assignment? s with
    | some op =>
      let (e, rest) := expression n rest
      (.assign x op e, rest)
    | none => conditional n (.name x :: .sign s :: rest)
  | n + 1, ls => conditional n ls

/-- Reads an expression that can be a choice. -/
def conditional : Nat → List ExpressionLexeme → Expression × List ExpressionLexeme
  | 0, _ => (.missing, [])
  | n + 1, ls =>
    let (c, rest) := operand n ls
    let (c, rest) := operations n 1 c rest
    match rest with
    | .sign "?" :: rest =>
      let (a, rest) := expression n rest
      match rest with
      | .sign ":" :: rest =>
        let (b, rest) := conditional n rest
        (.choice c a b, rest)
      | _ => (.choice c (.broken a .expectingColon) (.broken (.number 0) .expectingColon), [])
    | rest => (c, rest)

/-- Reads operations that bind at least so tightly, with their first operand read already. -/
def operations :
    Nat → Nat → Expression → List ExpressionLexeme → Expression × List ExpressionLexeme
  | 0, _, a, _ => (.broken a .expectingPrimary, [])
  | n + 1, least, a, .sign s :: rest =>
    match precedence? s with
    | some p =>
      if p < least then (a, .sign s :: rest)
      else
        let (b, rest) := operand n rest
        let (b, rest) := operations n (p + 1) b rest
        operations n least (.join s a b) rest
    | none => (a, .sign s :: rest)
  | _ + 1, _, a, ls => (a, ls)

/-- Reads a number, a variable, an expression in parentheses, or one of these after signs. -/
def operand : Nat → List ExpressionLexeme → Expression × List ExpressionLexeme
  | 0, _ => (.missing, [])
  | n + 1, ls =>
    match ls with
    | .number v :: rest => (.number v, rest)
    | .name x :: rest => (.named x, rest)
    | .sign "(" :: rest =>
      let (e, rest) := expression n rest
      match rest with
      | .sign ")" :: rest => (e, rest)
      | _ => (.broken e .expectingParenthesis, [])
    | .sign s :: rest =>
      if s = "+" then operand n rest
      else match ["-", "!", "~"].contains s, s.toList with
        | true, [op] =>
          let (e, rest) := operand n rest
          (.unary op e, rest)
        | _, _ => (.missing, [])
    | [] => (.missing, [])

end

/-- The expression that a text is. -/
def expressionOf (cs : List Char) : Expression :=
  let ls := expressionLexemes (cs.length + 1) cs
  let (e, rest) := expression (4 * ls.length + 4) ls
  if rest.isEmpty then e else .broken e .expectingEnd

/-- Fails if the expression is malformed; nothing in it is evaluated. -/
def Expression.check : Expression → Except ArithmeticFault Unit
  | .number _ => .ok ()
  | .named _ => .ok ()
  | .unary _ e => e.check
  | .binary _ a b => do
    a.check
    b.check
  | .both a b => do
    a.check
    b.check
  | .either a b => do
    a.check
    b.check
  | .choice c a b => do
    c.check
    a.check
    b.check
  | .assign _ _ e => e.check
  | .broken e f => do
    e.check
    throw f

/-! ## Evaluating -/

/-- The number among those of 64 bits with a sign. -/
def wrap (n : Int) : Int :=
  Int.bmod n 18446744073709551616

/-- One for what holds. -/
def truth (b : Bool) : Int :=
  if b then 1 else 0

/-- The value of an operation. -/
def operate (op : String) (a b : Int) : Except ArithmeticFault Int :=
  let bits (f : BitVec 64 → BitVec 64 → BitVec 64) : Except ArithmeticFault Int :=
    .ok (f (BitVec.ofInt 64 a) (BitVec.ofInt 64 b)).toInt
  match op with
  | "+" => .ok (wrap (a + b))
  | "-" => .ok (wrap (a - b))
  | "*" => .ok (wrap (a * b))
  | "/" => if b = 0 then .error .divisionByZero else .ok (wrap (Int.tdiv a b))
  | "%" => if b = 0 then .error .divisionByZero else .ok (Int.tmod a b)
  | "<<" => bits fun x y => x <<< (y.toNat % 64)
  | ">>" => bits fun x y => x.sshiftRight (y.toNat % 64)
  | "&" => bits (· &&& ·)
  | "|" => bits (· ||| ·)
  | "^" => bits (· ^^^ ·)
  | "==" => .ok (truth (a = b))
  | "!=" => .ok (truth (a ≠ b))
  | "<" => .ok (truth (a < b))
  | "<=" => .ok (truth (a ≤ b))
  | ">" => .ok (truth (b < a))
  | ">=" => .ok (truth (b ≤ a))
  | _ => .error .expectingEnd

/-- The number that a variable holds, with blanks around it; one that is not set or blank holds
zero. -/
def variableNumber (demand : Bool) (name : String) : Option String → Except ArithmeticFault Int
  | none => if demand then .error (.unset name) else .ok 0
  | some text =>
    let digits := (text.toList.reverse.dropWhile Text.isPlainBlank).reverse
    if digits.isEmpty then .ok 0
    else match integerOf (String.ofList digits) with
      | (n, none) => .ok n
      | (_, some _) => .error (.badNumber text)

/-- Variables that an expression has given values to. -/
abbrev Assigned := List (String × Int)

/-- The value of an expression, where `values` has the variables' texts and `demand` asks for them
to be set. -/
def Expression.value (demand : Bool) (values : String → Option String) :
    Expression → StateT Assigned (Except ArithmeticFault) Int
  | .number n => return n
  | .named x => do
    match Keyed.get? x (← get) with
    | some n => return n
    | none => variableNumber demand x (values x)
  | .unary op e => do
    let n ← e.value demand values
    return if op = '-' then wrap (-n) else if op = '!' then truth (n = 0) else -n - 1
  | .binary op a b => do
    let m ← a.value demand values
    let n ← b.value demand values
    operate op m n
  | .both a b => do
    if (← a.value demand values) = 0 then
      b.check
      return 0
    else return truth ((← b.value demand values) ≠ 0)
  | .either a b => do
    if (← a.value demand values) ≠ 0 then
      b.check
      return 1
    else return truth ((← b.value demand values) ≠ 0)
  | .choice c a b => do
    if (← c.value demand values) ≠ 0 then
      let n ← a.value demand values
      b.check
      return n
    else
      a.check
      b.value demand values
  | .broken e f => do
    let _ ← e.value demand values
    throw f
  | .assign x op e => do
    let n ← e.value demand values
    let n ← match op with
      | none => pure n
      | some op =>
        let old ← match Keyed.get? x (← get) with
          | some m => pure m
          | none => variableNumber demand x (values x)
        operate op old n
    modify (Keyed.set x n)
    return n

end Egress.Host.Shell
