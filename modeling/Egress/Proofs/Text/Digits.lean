import Egress.Text.Numeral

/-!
# Digits

The digits of a number in a base up to sixteen read back as the number (`natural?_toDigits`), zeros
in front of them do not count, and they have none in front themselves (`head?_toDigits`).
-/

set_option autoImplicit false

namespace Egress.Text

theorem digit?_digitChar {base d : Nat} (hd : d < base) (hbase : base ≤ 16) :
    digit? base d.digitChar = some d := by
  have hall : ∀ base < 17, ∀ d < base, digit? base d.digitChar = some d := by decide
  exact hall base (Nat.lt_succ_of_le hbase) d hd

theorem readDigits_append (base acc : Nat) (cs ds : List Char) : readDigits base acc (cs ++ ds)
    = (readDigits base acc cs).bind fun n => readDigits base n ds := by
  induction cs generalizing acc with
  | nil => rfl
  | cons c cs ih =>
    rw [List.cons_append, readDigits, readDigits, Option.bind_assoc]
    simp only [ih]

theorem readDigits_toDigits {base : Nat} (h : 1 < base) (hbase : base ≤ 16) (n : Nat) :
    readDigits base 0 (Nat.toDigits base n) = some n := by
  induction n using Nat.strongRecOn with
  | ind n ih =>
    by_cases hn : n < base
    · rw [Nat.toDigits_of_lt_base hn, readDigits, digit?_digitChar hn hbase, Option.bind_some,
        readDigits, Nat.zero_mul, Nat.zero_add]
    · -- all digits but the last are those of the quotient
      have hle : base ≤ n := Nat.le_of_not_lt hn
      have hdiv : n / base < n := Nat.div_lt_self (by omega) h
      have hmod : n % base < base := Nat.mod_lt n (by omega)
      rw [Nat.toDigits_of_base_le h hle, readDigits_append, ih _ hdiv, Option.bind_some, readDigits,
        digit?_digitChar hmod hbase, Option.bind_some, readDigits, Nat.mul_comm,
        Nat.div_add_mod]

theorem readDigits_zeros {base : Nat} (h : 0 < base) (hbase : base ≤ 16) (k : Nat)
    (cs : List Char) : readDigits base 0 (List.replicate k '0' ++ cs) = readDigits base 0 cs := by
  induction k with
  | zero => rfl
  | succ k ih =>
    have hzero : digit? base '0' = some 0 := digit?_digitChar h hbase
    rw [List.replicate_succ, List.cons_append, readDigits, hzero, Option.bind_some, Nat.zero_mul,
      ih]

/-- What is read as digits consists of digits. -/
theorem digit?_isSome_of_readDigits {base acc n : Nat} {cs : List Char}
    (h : readDigits base acc cs = some n) : ∀ c ∈ cs, (digit? base c).isSome = true := by
  induction cs generalizing acc with
  | nil => simp
  | cons c cs ih =>
    rw [readDigits] at h
    obtain ⟨d, hd, h⟩ := Option.bind_eq_some_iff.1 h
    intro c' hc'
    rcases List.mem_cons.1 hc' with rfl | hc'
    · rw [hd]
      rfl
    · exact ih h c' hc'

theorem natural?_toDigits {base : Nat} (h : 1 < base) (hbase : base ≤ 16) (n : Nat) :
    natural? base (Nat.toDigits base n) = some n := by
  have hne : (Nat.toDigits base n).isEmpty = false := by simp [Nat.toDigits_ne_nil]
  rw [natural?, hne]
  exact readDigits_toDigits h hbase n

theorem digit?_isSome_of_natural? {base n : Nat} {cs : List Char}
    (h : natural? base cs = some n) : ∀ c ∈ cs, (digit? base c).isSome = true := by
  rw [natural?] at h
  split at h
  · cases h
  · exact digit?_isSome_of_readDigits h

theorem not_mem_toDigits {base : Nat} (h : 1 < base) (hbase : base ≤ 16) {c : Char}
    (hc : digit? base c = none) (n : Nat) : c ∉ Nat.toDigits base n := by
  intro hm
  have hdigit := digit?_isSome_of_readDigits (readDigits_toDigits h hbase n) c hm
  rw [hc] at hdigit
  cases hdigit

/-- The first digit of a number is not zero, unless the number is. -/
theorem head?_toDigits {base n : Nat} (h : 1 < base) (hbase : base ≤ 16) (hn : n ≠ 0) :
    (Nat.toDigits base n).head? ≠ some '0' := by
  induction n using Nat.strongRecOn with
  | ind n ih =>
    by_cases hlt : n < base
    · rw [Nat.toDigits_of_lt_base hlt]
      intro hzero
      have hdigit := digit?_digitChar hlt hbase
      rw [Option.some.inj hzero, show digit? base '0' = some 0 from
        digit?_digitChar (Nat.lt_of_succ_lt h) hbase] at hdigit
      exact hn (Option.some.inj hdigit).symm
    · have hle : base ≤ n := Nat.le_of_not_lt hlt
      have hdiv : n / base < n := Nat.div_lt_self (by omega) h
      have hpos : n / base ≠ 0 := Nat.ne_of_gt (Nat.div_pos hle (by omega))
      have hfront := ih _ hdiv hpos
      obtain ⟨c, cs, hcs⟩ := List.exists_cons_of_ne_nil (@Nat.toDigits_ne_nil (n / base) base)
      rw [Nat.toDigits_of_base_le h hle, hcs]
      rwa [hcs] at hfront

end Egress.Text
