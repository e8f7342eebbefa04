import Egress.Text.Doubled
import Egress.Text.Numeral
import Egress.Text.Piece

/-!
# Network addresses

Addresses of version 4 (four octets) and version 6 (eight groups of 16 bits), with the text form
that is read (`Address.ofText?`) and the canonical one that is written (`Address.text`): octets in
decimal without leading zeros, groups in lower case hexadecimal with the longest run of two or more
zero groups left out, and a mapped version 4 address in mixed form.
-/

set_option autoImplicit false

namespace Egress

/-- A network address. -/
inductive Address where
  | v4 (a b c d : UInt8)
  | v6 (groups : List UInt16) (size : groups.length = 8)
  deriving DecidableEq

namespace Address

/-! ## Reading -/

/-- An octet: one to three decimal digits without a leading zero, at most 255. -/
def octet? (cs : List Char) : Option UInt8 :=
  if 3 < cs.length || (cs.head? = some '0' && 1 < cs.length) then none
  else ((Text.natural? 10 cs).filter (· < 256)).map UInt8.ofNat

/-- The four octets between dots. -/
def octets? (cs : List Char) : Option (UInt8 × UInt8 × UInt8 × UInt8) :=
  match (Text.pieces '.' cs).mapM octet? with
  | some [a, b, c, d] => some (a, b, c, d)
  | _ => none

/-- A group: one to four hexadecimal digits. -/
def group? (cs : List Char) : Option UInt16 :=
  if 4 < cs.length then none else (Text.natural? 16 cs).map UInt16.ofNat

/-- The group of two octets. -/
def pair (high low : UInt8) : UInt16 :=
  UInt16.ofNat (high.toNat * 256 + low.toNat)

/-- The groups of pieces between colons; with `mixed` the last piece may be a version 4 address,
which gives two groups. -/
def groupsOf? (mixed : Bool) : List (List Char) → Option (List UInt16)
  | [] => some []
  | [last] => match group? last with
    | some g => some [g]
    | none =>
      if mixed then (octets? last).map fun (a, b, c, d) => [pair a b, pair c d] else none
  | piece :: rest => do
    let g ← group? piece
    let gs ← groupsOf? mixed rest
    some (g :: gs)

/-- The groups of a text between colons; the empty text has none. -/
def groups? (mixed : Bool) (cs : List Char) : Option (List UInt16) :=
  if cs.isEmpty then some [] else groupsOf? mixed (Text.pieces ':' cs)

/-- The groups of a version 6 address; two colons in a row stand for the zero groups missing from
eight, at least one. -/
def allGroups? (cs : List Char) : Option (List UInt16) :=
  match Text.cutAt ':' cs with
  | none => groups? true cs
  | some (before, after) => do
    let head ← groups? false before
    let tail ← groups? true after
    if head.length + tail.length ≤ 7 then
      some (head ++ List.replicate (8 - head.length - tail.length) 0 ++ tail)
    else none

/-- The address a text denotes. -/
def ofChars? (cs : List Char) : Option Address :=
  match octets? cs with
  | some (a, b, c, d) => some (.v4 a b c d)
  | none => match allGroups? cs with
    | some gs => if h : gs.length = 8 then some (.v6 gs h) else none
    | none => none

/-- The address a text denotes. -/
def ofText? (s : String) : Option Address :=
  ofChars? s.toList

/-! ## Writing -/

/-- Octets between dots. -/
def octetsText (a b c d : Nat) : List Char :=
  Nat.toDigits 10 a ++ '.' :: Nat.toDigits 10 b ++ '.' :: Nat.toDigits 10 c
    ++ '.' :: Nat.toDigits 10 d

/-- Groups between colons. -/
def groupsText (gs : List UInt16) : List Char :=
  [':'].intercalate (gs.map fun g => Nat.toDigits 16 g.toNat)

/-- How many groups at the start are zero. -/
def leadingZeros (gs : List UInt16) : Nat :=
  (gs.takeWhile (· = 0)).length

/-- Start and length of the longest run of zero groups, the first of those. -/
def longestZeros : List UInt16 → Nat × Nat
  | [] => (0, 0)
  | g :: rest =>
    let here := leadingZeros (g :: rest)
    let (start, length) := longestZeros rest
    if length ≤ here then (0, here) else (start + 1, length)

/-- The groups of a version 6 address with the longest run of zeros left out. -/
def compressed (gs : List UInt16) : List Char :=
  let (start, length) := longestZeros gs
  if 1 < length then
    groupsText (gs.take start) ++ [':', ':'] ++ groupsText (gs.drop (start + length))
  else groupsText gs

/-- The characters of the canonical text. -/
def chars : Address → List Char
  | .v4 a b c d => octetsText a.toNat b.toNat c.toNat d.toNat
  | .v6 [0, 0, 0, 0, 0, 0xFFFF, x, y] _ =>
    "::ffff:".toList
      ++ octetsText (x.toNat / 256) (x.toNat % 256) (y.toNat / 256) (y.toNat % 256)
  | .v6 gs _ => compressed gs

/-- The canonical text. -/
def text (a : Address) : String :=
  String.ofList a.chars

/-! ## Identifiers -/

/-- Whether an identifier is an address, so that it needs no look-up. -/
def isLiteral (identifier : String) : Bool :=
  (ofText? identifier).isSome

/-- Whether an identifier is four groups of decimal digits between dots, in range or not. -/
def isShaped (identifier : String) : Bool :=
  let parts := Text.pieces '.' identifier.toList
  parts.length = 4 && parts.all fun p => !p.isEmpty && p.all Char.isDigit

end Address

end Egress
