import Egress.Text.Printable

/-!
# Quoted text

Texts as messages show them: between double quotes, with an escape for the quote, the backslash,
the named controls, and every character that has no visible form of its own or extends the one
before it.
-/

set_option autoImplicit false

namespace Egress.Text

/-- Digits of a number in a base up to sixteen, lower case, most significant first. -/
def digits (base n : Nat) : List Char :=
  Nat.toDigits base n

/-- The escape by code point. -/
def escapeCode (c : Char) : List Char :=
  ['\\', 'u', '\x7b'] ++ digits 16 c.toNat ++ ['\x7d']

/-- How a character is written inside quotes. -/
def escapeChar (c : Char) : List Char :=
  match c with
  | '"' => ['\\', '"']
  | '\\' => ['\\', '\\']
  | '\n' => ['\\', 'n']
  | '\r' => ['\\', 'r']
  | '\t' => ['\\', 't']
  | '\x00' => ['\\', '0']
  | c => if !isExtending c && isPrintable c then [c] else escapeCode c

/-- The text between double quotes. -/
def quote (s : String) : String :=
  String.ofList ('"' :: s.toList.flatMap escapeChar ++ ['"'])

/-- A list of texts, each quoted. -/
def quoteList (ss : List String) : String :=
  "[" ++ ", ".intercalate (ss.map quote) ++ "]"

end Egress.Text
