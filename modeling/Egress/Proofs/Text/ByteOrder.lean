import Egress.Text.Utf8
import Mathlib.Data.String.Basic

/-!
# The order of bytes

Texts are compared character by character. Their bytes, compared one by one, give the same order
(`lt_iff_encode_lt`): a character with a smaller number has the smaller bytes, whatever follows.
-/

set_option autoImplicit false

namespace Egress.Text

/-! ## The bytes of a text -/

/-- From a place in some bytes on, the rest of them is put behind what was read before. -/
theorem toList_loop_append (before after done : List UInt8) :
    ByteArray.toList.loop ⟨⟨before ++ after⟩⟩ before.length done = done.reverse ++ after := by
  induction after generalizing before done with
  | nil =>
    rw [ByteArray.toList.loop, if_neg (by simp [ByteArray.size]), List.append_nil]
  | cons b after ih =>
    have hnext := ih (before ++ [b]) (b :: done)
    rw [List.append_assoc, List.singleton_append, List.length_append] at hnext
    have hget : ByteArray.get! ⟨⟨before ++ b :: after⟩⟩ before.length = b := by
      simp [ByteArray.get!]
    rw [ByteArray.toList.loop, if_pos (by simp [ByteArray.size]), hget]
    exact hnext.trans (by simp)

theorem toList_eq (bytes : ByteArray) : bytes.toList = bytes.data.toList := by
  obtain ⟨⟨bs⟩⟩ := bytes
  exact toList_loop_append [] bs []

theorem encode_eq (s : String) : encode s = s.toList.flatMap String.utf8EncodeChar := by
  rw [encode, String.toUTF8_eq_toByteArray, ← String.utf8Encode_toList, List.utf8Encode,
    toList_eq, List.toList_data_toByteArray]

/-! ## The order -/

/-- A character with a smaller number has the smaller bytes, whatever follows. -/
theorem utf8EncodeChar_append_lt {c d : Char} (h : c < d) (xs ys : List UInt8) :
    String.utf8EncodeChar c ++ xs < String.utf8EncodeChar d ++ ys := by
  have hlt : c.val.toNat < d.val.toNat := h
  have hbound : d.val.toNat < 0x110000 := by
    rcases d.valid with hd | hd
    · exact Nat.lt_trans hd (by decide)
    · exact hd.2
  simp only [String.utf8EncodeChar]
  generalize c.val.toNat = m at hlt
  generalize d.val.toNat = n at hlt hbound
  have hsextets (v : Nat) : v / 4096 = v / 64 / 64 ∧ v / 262144 = v / 64 / 64 / 64 := by omega
  simp only [hsextets]
  -- the number of bytes grows with the character, and the first byte with the number of bytes
  split_ifs <;>
    simp (disch := omega) only [List.cons_append, List.nil_append, List.cons_lt_cons_iff,
      UInt8.lt_iff_toNat_lt, ← UInt8.toNat_inj, UInt8.toNat_ofNat', Nat.mod_eq_of_lt] <;>
    omega

theorem flatMap_utf8EncodeChar_lt {cs ds : List Char} (h : cs < ds) :
    cs.flatMap String.utf8EncodeChar < ds.flatMap String.utf8EncodeChar := by
  induction ds generalizing cs with
  | nil => exact absurd h (List.not_lt_nil cs)
  | cons d ds ih =>
    cases cs with
    | nil =>
      obtain ⟨b, bs, hd⟩ := List.exists_cons_of_ne_nil (String.utf8EncodeChar_ne_nil (c := d))
      rw [List.flatMap_nil, List.flatMap_cons, hd]
      exact List.nil_lt_cons b _
    | cons c cs =>
      rw [List.flatMap_cons, List.flatMap_cons]
      rcases List.cons_lt_cons_iff.1 h with hlt | ⟨rfl, hlt⟩
      · exact utf8EncodeChar_append_lt hlt _ _
      · exact List.append_left_lt (ih hlt)

/-- Texts are in the order of their bytes. -/
theorem lt_iff_encode_lt (s t : String) : s < t ↔ encode s < encode t := by
  have himp {s t : String} (h : s < t) : encode s < encode t := by
    rw [encode_eq, encode_eq]
    exact flatMap_utf8EncodeChar_lt (String.lt_iff_toList_lt.1 h)
  refine ⟨himp, fun h => ?_⟩
  by_contra hnot
  rcases eq_or_lt_of_le (not_lt.1 hnot) with rfl | hlt
  · exact List.lt_irrefl _ h
  · exact List.lt_asymm h (himp hlt)

/-- Texts in strictly ascending order of their bytes. -/
def Ascending (ss : List String) : Prop :=
  ss.Pairwise fun s t => encode s < encode t

theorem ascending_iff {ss : List String} : Ascending ss ↔ ss.Pairwise (· < ·) := by
  simp only [Ascending, lt_iff_encode_lt]

end Egress.Text
