import Egress.Text.Blank

/-!
# Numerals in text

Whole numbers as configurations and messages write them: optional sign and decimal digits for
64-bit integers, octal digits for permission bits.
-/

set_option autoImplicit false

namespace Egress.Text

/-- The smallest and the largest integer a document can hold. -/
def minInteger : Int := -9223372036854775808

/-- See `minInteger`. -/
def maxInteger : Int := 9223372036854775807

/-- Value of a digit in a base up to sixteen. -/
def digit? (base : Nat) (c : Char) : Option Nat :=
  let n := c.toNat
  let v := if 48 ≤ n && n ≤ 57 then n - 48
    else if 97 ≤ n && n ≤ 102 then n - 87
    else if 65 ≤ n && n ≤ 70 then n - 55
    else base
  if v < base then some v else none

/-- Number written by digits after `acc`; at least the digits have to be in the base. -/
def readDigits (base : Nat) : Nat → List Char → Option Nat
  | acc, [] => some acc
  | acc, c :: cs => (digit? base c).bind fun d => readDigits base (acc * base + d) cs

/-- Number written by a non-empty run of digits. -/
def natural? (base : Nat) (cs : List Char) : Option Nat :=
  if cs.isEmpty then none else readDigits base 0 cs

/-- A 64-bit integer with an optional sign. -/
def integer? (cs : List Char) : Option Int :=
  let value := match cs with
    | '-' :: ds => (natural? 10 ds).map fun n => -(n : Int)
    | '+' :: ds => (natural? 10 ds).map fun n => (n : Int)
    | ds => (natural? 10 ds).map fun n => (n : Int)
  value.filter fun n => minInteger ≤ n && n ≤ maxInteger

/-- A 32-bit number in octal with an optional plus sign. -/
def octal? (cs : List Char) : Option Nat :=
  let value := match cs with
    | '+' :: ds => natural? 8 ds
    | ds => natural? 8 ds
  value.filter fun n => n < 0x100000000

/-- The number in octal with at least four digits. -/
def octal (n : Nat) : String :=
  let ds := Nat.toDigits 8 n
  String.ofList (List.replicate (4 - ds.length) '0' ++ ds)

end Egress.Text
