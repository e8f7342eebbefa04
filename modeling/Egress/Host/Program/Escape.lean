import Egress.Text.Numeral

/-!
# Backslash escapes

Programs that write texts replace escapes in them: a backslash and a letter, or the digits of a
byte. Which ones a program knows are its `EscapeRules`.
-/

set_option autoImplicit false

namespace Egress.Host

/-- The escapes that a program knows beside those of line ends, tabs and the like. -/
structure EscapeRules where
  /-- Up to three octal digits can have a zero before them. -/
  zero : Bool
  /-- An `x` with up to two digits gives a byte in base sixteen. -/
  hex : Bool
  /-- A `c` ends all output. -/
  stop : Bool
  /-- An `e` is the escape character. -/
  escape : Bool
  /-- A double quote is itself. -/
  quote : Bool

/-- The byte of a number, by its low eight bits, as a character. -/
def byteChar (n : Nat) : Char :=
  Char.ofNat (n % 256)

/-- Value of up to `n` digits in a base at the start, and what follows them. -/
def digitsAhead (base : Nat) : Nat → Nat → List Char → Nat × List Char
  | 0, acc, cs => (acc, cs)
  | _ + 1, acc, [] => (acc, [])
  | n + 1, acc, c :: cs => match Text.digit? base c with
    | some d => digitsAhead base n (acc * base + d) cs
    | none => (acc, c :: cs)

/-- The character that a letter after a backslash stands for. -/
def namedEscape? (r : EscapeRules) : Char → Option Char
  | 'a' => some '\x07'
  | 'b' => some '\x08'
  | 'e' => if r.escape then some '\x1b' else none
  | 'f' => some '\x0c'
  | 'n' => some '\n'
  | 'r' => some '\x0d'
  | 't' => some '\t'
  | 'v' => some '\x0b'
  | '\\' => some '\\'
  | '"' => if r.quote then some '"' else none
  | _ => none

/-- Text after a backslash: what it stands for and what follows, or the end of all output. -/
def escape? (r : EscapeRules) : List Char → Option (List Char × List Char)
  | [] => some (['\\'], [])
  | c :: cs =>
    if c = 'c' && r.stop then none
    else if (Text.digit? 8 c).isSome then
      let digits := if c = '0' && r.zero then cs else c :: cs
      let (n, rest) := digitsAhead 8 3 0 digits
      some ([byteChar n], rest)
    else if c = 'x' && r.hex && ((cs.head?.bind (Text.digit? 16)).isSome) then
      let (n, rest) := digitsAhead 16 2 0 cs
      some ([byteChar n], rest)
    else match namedEscape? r c with
      | some b => some ([b], cs)
      | none => some (['\\', c], cs)

/-- A text with its escapes replaced, and whether the output goes on after it. `fuel` bounds the
characters. -/
def unescape (r : EscapeRules) : Nat → List Char → List Char × Bool
  | 0, _ => ([], true)
  | _ + 1, [] => ([], true)
  | fuel + 1, c :: cs =>
    if c = '\\' then match escape? r cs with
      | none => ([], false)
      | some (text, rest) =>
        let (more, goesOn) := unescape r fuel rest
        (text ++ more, goesOn)
    else
      let (more, goesOn) := unescape r fuel cs
      (c :: more, goesOn)

/-- A text with its escapes replaced, and whether the output goes on after it. -/
def unescapeText (r : EscapeRules) (s : String) : List Char × Bool :=
  unescape r (s.length + 1) s.toList

end Egress.Host
