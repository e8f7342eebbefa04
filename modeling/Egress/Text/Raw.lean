import Egress.Text.Utf8

/-!
# Texts of bytes

Programs pass bytes to each other. Here a byte is the character of its number, so that bytes can be
told apart and compared as texts are. `ofBytes` and `toBytes` are inverse to each other
(`toBytes_ofBytes`); `ofText` and `toText` go to and from texts in UTF-8.
-/

set_option autoImplicit false

namespace Egress.Text.Raw

/-- The text whose characters are the bytes. -/
def ofBytes (bytes : List UInt8) : String :=
  String.ofList (bytes.map fun b => Char.ofNat b.toNat)

/-- The bytes that the characters are. -/
def toBytes (s : String) : List UInt8 :=
  s.toList.map fun c => UInt8.ofNat c.toNat

/-- The bytes of a text, as characters. -/
def ofText (s : String) : String :=
  ofBytes (encode s)

/-- The text that the bytes are, with a replacement character for every ill-formed stretch. -/
def toText (s : String) : String :=
  decodeLossy (toBytes s)

theorem toBytes_ofBytes (bytes : List UInt8) : toBytes (ofBytes bytes) = bytes := by
  have byte_char (b : UInt8) : UInt8.ofNat (Char.ofNat b.toNat).toNat = b := by
    have h : b.toNat < 0xD800 := Nat.lt_trans b.toNat_lt (by decide)
    have hv : b.toNat.isValidChar := Or.inl h
    have hc : (Char.ofNat b.toNat).toNat = b.toNat := by
      rw [Char.ofNat, dif_pos hv]
      rfl
    rw [hc, UInt8.ofNat_toNat]
  simp [toBytes, ofBytes, Function.comp_def, byte_char]

end Egress.Text.Raw
