import Egress.Proofs.Text.Digits
import Egress.Proofs.Text.Trim

/-!
# Octal numbers

The text of permission bits reads back as the number, whatever fits 32 bits (`octal?_octal`): the
zeros in front of it do not count, and it has no blanks or sign that could be taken off.
-/

set_option autoImplicit false

namespace Egress.Text

theorem isBlank_of_isDigit {c : Char} (h : c.isDigit = true) : isBlank c = false := by
  have hrange : 48 ≤ c.toNat ∧ c.toNat ≤ 57 := Char.isDigit_iff_toNat.1 h
  rw [Bool.eq_false_iff]
  simp only [isBlank, ne_eq, Bool.or_eq_true, Bool.and_eq_true, decide_eq_true_eq]
  omega

/-- The characters of a number in octal. -/
theorem octal_toList (n : Nat) : (octal n).toList
    = List.replicate (4 - (Nat.toDigits 8 n).length) '0' ++ Nat.toDigits 8 n :=
  String.toList_ofList

theorem isDigit_of_mem_octal {n : Nat} {c : Char} (h : c ∈ (octal n).toList) :
    c.isDigit = true := by
  rw [octal_toList, List.mem_append] at h
  rcases h with h | h
  · rw [List.eq_of_mem_replicate h]
    decide
  · exact Nat.isDigit_of_mem_toDigits (by decide) (by decide) h

theorem natural?_octal (n : Nat) : natural? 8 (octal n).toList = some n := by
  have hne : (octal n).toList.isEmpty = false := by
    simp [octal_toList, Nat.toDigits_ne_nil]
  rw [natural?, hne, octal_toList, readDigits_zeros (by decide) (by decide)]
  exact readDigits_toDigits (by decide) (by decide) n

theorem trim_octal (n : Nat) : trim (octal n).toList = (octal n).toList :=
  trim_of_bare ⟨fun _ h => isBlank_of_isDigit (isDigit_of_mem_octal (List.mem_of_mem_head? h)),
    fun _ h => isBlank_of_isDigit (isDigit_of_mem_octal (List.mem_of_mem_getLast? h))⟩

/-- A number of 32 bits is read back from its octal text. -/
theorem octal?_octal {n : Nat} (h : n < 0x100000000) : octal? (octal n).toList = some n := by
  have hplain : ∀ ds, (octal n).toList ≠ '+' :: ds := by
    intro ds hds
    have hplus : '+' ∈ (octal n).toList := hds ▸ List.mem_cons_self
    exact absurd (isDigit_of_mem_octal hplus) (by decide)
  unfold octal?
  split
  · exact absurd ‹_› (hplain _)
  · rw [natural?_octal]
    simp [h]

end Egress.Text
