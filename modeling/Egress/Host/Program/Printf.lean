import Egress.Host.Program.Basic
import Egress.Host.Program.Escape

/-!
# Formatted output

The program `printf` and the shell's own command of that name. A format is cut into pieces
(`formatPieces`); each conversion takes an argument, and the format is used over and over while
arguments are left. What is wrong with the arguments is gathered as faults; the two commands differ
in their escapes and in the wording of the faults.
-/

set_option autoImplicit false

namespace Egress.Host

/-- What can be wrong with a format and its arguments. -/
inductive PrintfFault where
  | noFormat
  | noNumber (arg : String)
  | partNumber (arg : String)
  | outOfRange (arg : String)
  | badDirective (text : String)
  deriving DecidableEq, Repr

/-- Whether nothing is written after the fault. -/
def PrintfFault.isFatal : PrintfFault → Bool
  | .noFormat => true
  | .badDirective _ => true
  | _ => false

/-- How a command of this kind deals with escapes and faults. -/
structure PrintfStyle where
  format : EscapeRules
  argument : EscapeRules
  wording : PrintfFault → String
  /-- Status after a fault that ends the output. -/
  fatalStatus : Nat

/-- The program `printf`. -/
def PrintfStyle.program : PrintfStyle where
  format := { zero := false, hex := true, stop := true, escape := true, quote := true }
  argument := { zero := true, hex := true, stop := true, escape := true, quote := true }
  wording
    | .noFormat => "missing operand\nTry 'printf --help' for more information."
    | .noNumber arg => "'" ++ arg ++ "': expected a numeric value"
    | .partNumber arg => "'" ++ arg ++ "': value not completely converted"
    | .outOfRange arg => "'" ++ arg ++ "': Numerical result out of range"
    | .badDirective text => text ++ ": invalid conversion specification"
  fatalStatus := 1

/-- The shell's own command. -/
def PrintfStyle.shell : PrintfStyle where
  format := { zero := false, hex := false, stop := false, escape := false, quote := false }
  argument := { zero := true, hex := false, stop := true, escape := false, quote := false }
  wording
    | .noFormat => "usage: printf format [arg ...]"
    | .noNumber arg => arg ++ ": expected numeric value"
    | .partNumber arg => arg ++ ": not completely converted"
    | .outOfRange arg => arg ++ ": Numerical result out of range"
    | .badDirective text => text ++ ": invalid directive"
  fatalStatus := 2

/-! ## Formats -/

/-- A number of a conversion: given in the format, or taken from the arguments. -/
inductive FormatNumber where
  | given (n : Nat)
  | taken
  deriving DecidableEq, Repr

/-- A conversion: its flags, its least width, its precision and its letter. -/
structure Conversion where
  flags : List Char := []
  width : FormatNumber := .given 0
  precision : Option FormatNumber := none
  letter : Char
  deriving DecidableEq, Repr

/-- A piece of a format. -/
inductive FormatPiece where
  | text (cs : List Char)
  | conversion (c : Conversion)
  | bad (text : String)
  /-- The end of all output. -/
  | stop
  deriving DecidableEq, Repr

/-- The number at the start of a text, and what follows it. -/
def formatNumber : List Char → FormatNumber × List Char
  | '*' :: cs => (.taken, cs)
  | cs =>
    let (n, rest) := digitsAhead 10 9 0 cs
    (.given n, rest)

/-- The conversion at the start of a text, after the percent sign, and what follows it. -/
def conversionAhead (cs : List Char) : FormatPiece × List Char :=
  let flags := cs.takeWhile ['-', '0', '+', ' ', '#'].contains
  let (width, rest) := formatNumber (cs.drop flags.length)
  let (precision, rest) := match rest with
    | '.' :: rest =>
      let (n, rest) := formatNumber rest
      (some n, rest)
    | rest => (none, rest)
  match rest with
  | letter :: rest =>
    if ['s', 'd', 'i', 'u', 'c', 'b', 'x', 'X', 'o'].contains letter then
      (.conversion { flags, width, precision, letter }, rest)
    else
      let text := '%' :: cs.take (cs.length - rest.length)
      (.bad (String.ofList text), rest)
  | [] => (.bad (String.ofList ('%' :: cs)), [])

/-- Pieces of a format; `fuel` bounds the characters. -/
def formatPieces (r : EscapeRules) : Nat → List Char → List FormatPiece
  | 0, _ => []
  | _ + 1, [] => []
  | fuel + 1, '\\' :: cs => match escape? r cs with
    | none => [.stop]
    | some (text, rest) => .text text :: formatPieces r fuel rest
  | fuel + 1, '%' :: '%' :: cs => .text ['%'] :: formatPieces r fuel cs
  | fuel + 1, '%' :: cs =>
    let (piece, rest) := conversionAhead cs
    piece :: formatPieces r fuel rest
  | fuel + 1, c :: cs => .text [c] :: formatPieces r fuel cs

/-! ## Numbers -/

/-- Digits after the mark of a base at the start, in that base. -/
def digitsOfBase (cs : List Char) : Nat × List Char :=
  match cs with
  | '0' :: 'x' :: d :: rest =>
    if (Text.digit? 16 d).isSome then (16, d :: rest) else (8, cs)
  | '0' :: 'X' :: d :: rest =>
    if (Text.digit? 16 d).isSome then (16, d :: rest) else (8, cs)
  | '0' :: _ => (8, cs)
  | _ => (10, cs)

/-- The number of 64 bits that a text is, and what is wrong with it; what is no part of a number is
passed over at its end. -/
def integerOf (arg : String) : Int × Option PrintfFault :=
  let cs := arg.toList.dropWhile Text.isPlainBlank
  let (negative, digits) := match cs with
    | '-' :: rest => (true, rest)
    | '+' :: rest => (false, rest)
    | rest => (false, rest)
  let (base, digits) := digitsOfBase digits
  let (n, rest) := digitsAhead base digits.length 0 digits
  if rest.length = digits.length then (0, some (.noNumber arg))
  else
    let value : Int := if negative then -(n : Int) else n
    if value < Text.minInteger then (Text.minInteger, some (.outOfRange arg))
    else if Text.maxInteger < value then (Text.maxInteger, some (.outOfRange arg))
    else (value, if rest.isEmpty then none else some (.partNumber arg))

/-- The number that an argument is, with what is wrong about it. A quote before a character stands
for the number of that character. -/
def numberOf (arg : String) : Int × Option PrintfFault :=
  match arg.toList with
  | [] => (0, none)
  | '\'' :: c :: _ => (c.toNat, none)
  | '"' :: c :: _ => (c.toNat, none)
  | _ => integerOf arg

/-- The number among those of 64 bits without a sign. -/
def unsigned (n : Int) : Nat :=
  (n % 18446744073709551616).toNat

/-- Text filled with blanks up to a width. -/
def padText (left : Bool) (width : Nat) (cs : List Char) : List Char :=
  let blanks := List.replicate (width - cs.length) ' '
  if left then cs ++ blanks else blanks ++ cs

/-- The sign or the mark of a base before a number's digits. -/
def numberMark (flags : List Char) (letter : Char) (n : Int) : List Char :=
  if letter = 'd' || letter = 'i' then
    if n < 0 then ['-']
    else if flags.contains '+' then ['+']
    else if flags.contains ' ' then [' ']
    else []
  else if flags.contains '#' && n ≠ 0 then
    if letter = 'x' then ['0', 'x'] else if letter = 'X' then ['0', 'X'] else []
  else []

/-- Digits of a number under a conversion's letter. -/
def numberDigits (letter : Char) (n : Int) : List Char :=
  match letter with
  | 'x' => Nat.toDigits 16 (unsigned n)
  | 'X' => (Nat.toDigits 16 (unsigned n)).map Char.toUpper
  | 'o' => Nat.toDigits 8 (unsigned n)
  | 'u' => Nat.toDigits 10 (unsigned n)
  | _ => Nat.toDigits 10 n.natAbs

/-- A number's text under a conversion with a width and a precision. -/
def numberText (flags : List Char) (letter : Char) (width : Nat) (precision : Option Nat)
    (n : Int) : List Char :=
  let digits := numberDigits letter n
  let digits := if precision = some 0 && n = 0 then [] else digits
  let digits := if letter = 'o' && flags.contains '#' && digits.head? ≠ some '0' then
    '0' :: digits else digits
  let digits := List.replicate (precision.getD 1 - digits.length) '0' ++ digits
  let mark := numberMark flags letter n
  if flags.contains '0' && !flags.contains '-' && precision.isNone then
    mark ++ List.replicate (width - mark.length - digits.length) '0' ++ digits
  else padText (flags.contains '-') width (mark ++ digits)

/-! ## Writing -/

/-- How far the writing has come. -/
structure Printing where
  text : List Char := []
  faults : List PrintfFault := []
  arguments : List String
  stopped : Bool := false

namespace Printing

/-- Takes the next argument; none when there are no more. -/
def take (p : Printing) : Option String × Printing :=
  (p.arguments.head?, { p with arguments := p.arguments.tail })

/-- Notes what is wrong, if something is. -/
def blame (p : Printing) : Option PrintfFault → Printing
  | none => p
  | some f => { p with faults := p.faults ++ [f], stopped := p.stopped || f.isFatal }

/-- Takes the next argument as a number. -/
def takeNumber (p : Printing) : Int × Printing :=
  match p.take with
  | (none, p) => (0, p)
  | (some arg, p) =>
    let (n, fault) := numberOf arg
    (n, p.blame fault)

/-- The value of a width or precision. -/
def numberValue (p : Printing) : FormatNumber → Int × Printing
  | .given n => (n, p)
  | .taken => p.takeNumber

/-- Writes text. -/
def add (p : Printing) (cs : List Char) : Printing :=
  { p with text := p.text ++ cs }

/-- Writes an argument under a conversion. -/
def convert (r : EscapeRules) (p : Printing) (c : Conversion) : Printing :=
  let (width, p) := p.numberValue c.width
  let (precision, p) := match c.precision with
    | none => (none, p)
    | some n =>
      let (v, p) := p.numberValue n
      (if v < 0 then none else some v.toNat, p)
  let flags := if width < 0 then '-' :: c.flags else c.flags
  let width := width.natAbs
  let cut (cs : List Char) := (precision.map cs.take).getD cs
  let write (p : Printing) (cs : List Char) := p.add (padText (flags.contains '-') width cs)
  match c.letter with
  | 's' =>
    let (arg, p) := p.take
    write p (cut (arg.getD "").toList)
  | 'b' =>
    let (arg, p) := p.take
    let (cs, goesOn) := unescapeText r (arg.getD "")
    { write p (cut cs) with stopped := !goesOn }
  | 'c' =>
    let (arg, p) := p.take
    write p (match arg with
      | none => []
      | some arg => [arg.toList.headD '\x00'])
  | letter =>
    let (n, p) := p.takeNumber
    p.add (numberText flags letter width precision n)

/-- Writes a piece of a format. -/
def piece (r : EscapeRules) (p : Printing) : FormatPiece → Printing
  | .text cs => if p.stopped then p else p.add cs
  | .conversion c => if p.stopped then p else p.convert r c
  | .bad text => if p.stopped then p else p.blame (some (.badDirective text))
  | .stop => { p with stopped := true }

end Printing

/-- Writes a format over and over while there are arguments and it takes some; `fuel` bounds the
arguments. -/
def formatAll (r : EscapeRules) (pieces : List FormatPiece) : Nat → Printing → Printing
  | 0, p => p
  | fuel + 1, p =>
    let next := pieces.foldl (Printing.piece r) p
    if !next.stopped && !next.arguments.isEmpty
        && next.arguments.length < p.arguments.length then formatAll r pieces fuel next
    else next

/-- What a command of a style writes, and what is wrong with its arguments. -/
def formatted (s : PrintfStyle) : List String → List Char × List PrintfFault
  | [] => ([], [.noFormat])
  | "--" :: [] => ([], [.noFormat])
  | "--" :: format :: args => go format args
  | format :: args => go format args
where
  /-- Writes a format with arguments. -/
  go (format : String) (args : List String) : List Char × List PrintfFault :=
    let pieces := formatPieces s.format (format.length + 1) format.toList
    let p := formatAll s.argument pieces (args.length + 1) { arguments := args }
    (p.text, p.faults)

/-- A command of a style whose complaints begin with a text. -/
def printfOf (s : PrintfStyle) (start : String) (args : List String) : Outcome :=
  let (cs, faults) := formatted s args
  let complaints := faults.map fun f => start ++ s.wording f ++ "\n"
  { output := Text.Raw.toBytes (String.ofList cs)
    errors := Text.Raw.toBytes (String.join complaints)
    status := some (if faults.any PrintfFault.isFatal then s.fatalStatus
      else if faults.isEmpty then 0 else 1) }

/-- The program `printf`. -/
def printf (args : List String) : Outcome :=
  printfOf .program "printf: " args

end Egress.Host
