/-!
# Bytes as text

Strict and forgiving decoding of UTF-8. `decodeChar` reads one character from the front of a byte
list or says how many bytes its longest beginning of a character has; `decode?` fails on those and
`decodeLossy` puts one replacement character for each.
-/

set_option autoImplicit false

namespace Egress.Text

/-- The second bytes that may follow a first byte of a character of two to four bytes, and how many
more bytes follow those. -/
def continuation? (first : Nat) : Option (Nat × Nat × Nat) :=
  if 0xC2 ≤ first && first ≤ 0xDF then some (0x80, 0xBF, 0)
  else if first = 0xE0 then some (0xA0, 0xBF, 1)
  else if first = 0xED then some (0x80, 0x9F, 1)
  else if 0xE1 ≤ first && first ≤ 0xEF then some (0x80, 0xBF, 1)
  else if first = 0xF0 then some (0x90, 0xBF, 2)
  else if 0xF1 ≤ first && first ≤ 0xF3 then some (0x80, 0xBF, 2)
  else if first = 0xF4 then some (0x80, 0x8F, 2)
  else none

/-- Value bits of a first byte. -/
def firstBits (first : Nat) : Nat :=
  if first < 0xE0 then first % 0x20 else if first < 0xF0 then first % 0x10 else first % 0x08

/-- Reads up to `n` further bytes of a character into `acc`; the number read when one is missing. -/
def takeTail (acc read : Nat) : Nat → List UInt8 → Except Nat (Nat × Nat)
  | 0, _ => .ok (acc, read)
  | _ + 1, [] => .error read
  | n + 1, b :: rest =>
    if 0x80 ≤ b.toNat && b.toNat ≤ 0xBF then
      takeTail (acc * 0x40 + b.toNat % 0x40) (read + 1) n rest
    else .error read

/-- The character a byte list begins with and its number of bytes, or the number of bytes of the
longest beginning of a character it begins with. -/
def decodeChar (b : UInt8) (rest : List UInt8) : Except Nat (Char × Nat) :=
  if b.toNat < 0x80 then .ok (Char.ofNat b.toNat, 1)
  else match continuation? b.toNat, rest with
    | none, _ => .error 1
    | some _, [] => .error 1
    | some (low, high, more), c :: rest =>
      if low ≤ c.toNat && c.toNat ≤ high then
        match takeTail (firstBits b.toNat * 0x40 + c.toNat % 0x40) 2 more rest with
        | .ok (n, read) => .ok (Char.ofNat n, read)
        | .error read => .error read
      else .error 1

/-- Characters of a byte list, each ill-formed stretch as `none`; `fuel` bounds the bytes. -/
def decodeParts : Nat → List UInt8 → List (Option Char)
  | 0, _ => []
  | _ + 1, [] => []
  | fuel + 1, b :: rest =>
    match decodeChar b rest with
    | .ok (c, n) => some c :: decodeParts fuel (rest.drop (n - 1))
    | .error n => none :: decodeParts fuel (rest.drop (n - 1))

/-- The text of a byte list, if it is well formed. -/
def decode? (bytes : List UInt8) : Option String :=
  ((decodeParts bytes.length bytes).mapM id).map String.ofList

/-- The text of a byte list with a replacement character for every ill-formed stretch. -/
def decodeLossy (bytes : List UInt8) : String :=
  String.ofList ((decodeParts bytes.length bytes).map fun c => c.getD '\uFFFD')

/-- The bytes of a text. -/
def encode (s : String) : List UInt8 :=
  s.toUTF8.toList

end Egress.Text
