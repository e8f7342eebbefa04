import Egress.Host.FileStore.Basic
import Egress.Host.Program.Basic
import Egress.Text.Numeral

/-!
# Conditions

The command that answers by its status whether a condition holds: about texts, whole numbers and
files. A condition is read from its words by the number of words first, and then by a grammar.
-/

set_option autoImplicit false

namespace Egress.Host

/-- What is wrong with a condition. -/
inductive ConditionFault where
  | missingBracket
  | noNumber (word : String)
  | noOperand (sign : String)
  | unexpected (word : String)
  | unclosed
  deriving DecidableEq, Repr

/-- The wording of what is wrong with a condition. -/
def ConditionFault.message : ConditionFault → String
  | .missingBracket => "missing ]"
  | .noNumber word => "Illegal number: " ++ word
  | .noOperand sign => sign ++ ": argument expected"
  | .unexpected word => (if word = "" then "" else word ++ ": ") ++ "unexpected operator"
  | .unclosed => "closing paren expected"

/-- Signs before a single operand. -/
def unarySigns : List String :=
  ["-n", "-z", "-e", "-f", "-d", "-r", "-w", "-x", "-s", "-h", "-L", "-t", "-p", "-S", "-b", "-c",
    "-u", "-g", "-k", "-O", "-G"]

/-- Signs between two operands. -/
def binarySigns : List String :=
  ["=", "!=", "<", ">", "-eq", "-ne", "-gt", "-ge", "-lt", "-le", "-nt", "-ot", "-ef"]

/-- The kinds of signs. -/
inductive ConditionSign where
  | unary
  | binary
  | other
  deriving DecidableEq, Repr

/-- The kind of sign that a word is. -/
def conditionSign? (word : String) : Option ConditionSign :=
  if unarySigns.contains word then some .unary
  else if binarySigns.contains word then some .binary
  else if ["!", "-a", "-o", "(", ")"].contains word then some .other
  else none

/-- A whole number between blanks. -/
def conditionNumber (word : String) : Except ConditionFault Int :=
  let cs := (word.toList.dropWhile Text.isPlainBlank).reverse
  let cs := (cs.dropWhile Text.isPlainBlank).reverse
  match Text.integer? cs with
  | some n => .ok n
  | none => .error (.noNumber word)

/-- Whether what a path leads to has a property. -/
def about (files : FileStore) (path : String) (p : Entry → Bool) : Bool :=
  match files.lookup (Text.Raw.toText path) with
  | .ok (_, e) => p e
  | .error _ => false

/-- Whether a condition of a sign and an operand holds. -/
def unaryHolds (files : FileStore) (sign operand : String) : Bool :=
  match sign with
  | "-n" => operand ≠ ""
  | "-z" => operand = ""
  | "-e" => about files operand fun _ => true
  | "-f" => about files operand fun e => !e.isDirectory
  | "-d" => about files operand Entry.isDirectory
  | "-r" => about files operand fun e => mayRead e.mode
  | "-w" => about files operand fun e => mayWrite e.mode
  | "-x" => about files operand fun e => mayExecute e.mode
  | "-s" => about files operand fun
    | .file content _ => !content.isEmpty
    | .directory _ => true
  | "-u" => about files operand fun e => e.mode / 0o4000 % 2 = 1
  | "-g" => about files operand fun e => e.mode / 0o2000 % 2 = 1
  | "-k" => about files operand fun e => e.mode / 0o1000 % 2 = 1
  | "-O" => about files operand fun _ => true
  | "-G" => about files operand fun _ => true
  | _ => false

/-- Whether a condition of a sign between two operands holds. -/
def binaryHolds (files : FileStore) (sign a b : String) : Except ConditionFault Bool := do
  let compare (p : Int → Int → Bool) : Except ConditionFault Bool := do
    return p (← conditionNumber a) (← conditionNumber b)
  match sign with
  | "=" => return a = b
  | "!=" => return a ≠ b
  | "<" => return a < b
  | ">" => return b < a
  | "-eq" => compare fun m n => m = n
  | "-ne" => compare fun m n => m ≠ n
  | "-gt" => compare fun m n => n < m
  | "-ge" => compare fun m n => n ≤ m
  | "-lt" => compare fun m n => m < n
  | "-le" => compare fun m n => m ≤ n
  | "-ef" =>
    match files.lookup (Text.Raw.toText a), files.lookup (Text.Raw.toText b) with
    | .ok (l, _), .ok (m, _) => return l = m
    | _, _ => return false
  | _ => return false

/-- How a word is read: as a sign, or as an operand. -/
def asSign? (word : String) (rest : List String) : Option ConditionSign :=
  match conditionSign? word with
  | some .unary => match rest with
    | [] => none
    | sign :: more =>
      if conditionSign? sign = some .binary && !more.isEmpty && more.head? ≠ some ")" then none
      else some .unary
  | some .other => if word = "(" && rest.isEmpty then none else some .other
  | sign => sign

/-- What is read of a condition: whether it holds, and the words after it. -/
abbrev Held := Except ConditionFault (Bool × List String)

mutual

/-- Reads conditions of which one has to hold. -/
def anyHolds (files : FileStore) : Nat → List String → Held
  | 0, _ => .error .unclosed
  | n + 1, ws => do
    let (a, rest) ← allHold files n ws
    match rest with
    | "-o" :: rest =>
      let (b, rest) ← anyHolds files n rest
      return (a || b, rest)
    | rest => return (a, rest)

/-- Reads conditions that all have to hold. -/
def allHold (files : FileStore) : Nat → List String → Held
  | 0, _ => .error .unclosed
  | n + 1, ws => do
    let (a, rest) ← oneHolds files n ws
    match rest with
    | "-a" :: rest =>
      let (b, rest) ← allHold files n rest
      return (a && b, rest)
    | rest => return (a, rest)

/-- Reads a condition without signs that join conditions. -/
def oneHolds (files : FileStore) : Nat → List String → Held
  | 0, _ => .error .unclosed
  | n + 1, ws =>
    match ws with
    | [] => .ok (false, [])
    | w :: rest =>
      match asSign? w rest, w with
      | some .other, "!" => do
        let (a, rest) ← oneHolds files n rest
        return (!a, rest)
      | some .other, "(" =>
        match rest with
        | ")" :: rest => .ok (false, rest)
        | rest => do
          let (a, rest) ← anyHolds files n rest
          match rest with
          | ")" :: rest => return (a, rest)
          | _ => throw .unclosed
      | some .unary, sign =>
        match rest with
        | operand :: rest => .ok (unaryHolds files sign operand, rest)
        | [] => .error (.noOperand sign)
      | _, w =>
        match rest with
        | sign :: more =>
          if conditionSign? sign = some .binary then
            match more with
            | b :: more => do return (← binaryHolds files sign w b, more)
            | [] => .error (.noOperand sign)
          else .ok (w ≠ "", rest)
        | [] => .ok (w ≠ "", [])

end

/-- Reads conditions that make up all words; if they do not, the last one that was read is
complained about. -/
def wholeHolds (files : FileStore) (ws : List String) : Except ConditionFault Bool := do
  let (a, rest) ← anyHolds files (4 * ws.length + 4) ws
  if rest.isEmpty then return a
  else throw (.unexpected (ws.getD (ws.length - rest.length - 1) ""))

/-- Whether the condition of some words holds. -/
def holds (files : FileStore) : List String → Except ConditionFault Bool
  | [] => .ok false
  | [a, sign, b] =>
    if conditionSign? sign = some .binary then binaryHolds files sign a b
    else if a = "(" && b = ")" then wholeHolds files [sign]
    else if a = "!" then do return !(← holds files [sign, b])
    else wholeHolds files [a, sign, b]
  | ["!", a] => do return !(← holds files [a])
  | ["!", a, b, c] => do return !(← holds files [a, b, c])
  | ["(", a, b, ")"] => wholeHolds files [a, b]
  | ws => wholeHolds files ws

/-- Whether the condition between brackets holds; of the last word only the first character is
looked at. -/
def bracketHolds (files : FileStore) (ws : List String) : Except ConditionFault Bool :=
  if (ws.getLast?.bind (·.toList.head?)) = some ']' then holds files ws.dropLast
  else .error .missingBracket

/-- The outcome of asking for a condition. -/
def conditionOutcome (start : String) : Except ConditionFault Bool → Outcome
  | .ok held => { status := some (if held then 0 else 1) }
  | .error e => .complain (start ++ e.message ++ "\n") 2

end Egress.Host
