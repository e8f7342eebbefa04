import Egress.Address
import Egress.Proofs.Template.Scan
import Egress.Proofs.Text.Digits
import Mathlib.Data.List.TakeWhile

/-!
# Addresses read back from their text

The canonical text of every address denotes the address (`ofChars?_chars`), also where a run of zero
groups is left out (`allGroups?_compressed`) and where the last two groups are written as octets
(`allGroups?_mixed`). An address of version 6 is not taken for one of version 4, since its text has a
colon in it.
-/

set_option autoImplicit false

namespace Egress.Address

open Text

/-! ## Octets -/

theorem octet?_toDigits {n : Nat} (h : n < 256) :
    octet? (Nat.toDigits 10 n) = some (UInt8.ofNat n) := by
  have hlength : (Nat.toDigits 10 n).length ≤ 3 := by
    rw [Nat.length_toDigits_le_iff (by decide) (by decide)]
    omega
  have hzero : ¬ ((Nat.toDigits 10 n).head? = some '0' ∧ 1 < (Nat.toDigits 10 n).length) := by
    rintro ⟨hhead, hlong⟩
    by_cases hn : n = 0
    · subst hn
      revert hlong
      decide
    · exact head?_toDigits (by decide) (by decide) hn hhead
  rw [octet?, natural?_toDigits (by decide) (by decide), if_neg]
  · have hsmall : (some n).filter (· < 256) = some n := by simp [Option.filter, h]
    rw [hsmall]
    rfl
  · simpa [Nat.not_lt.2 hlength] using hzero

theorem not_mem_toDigits_ten {c : Char} (hc : digit? 10 c = none) (n : Nat) :
    c ∉ Nat.toDigits 10 n :=
  not_mem_toDigits (by decide) (by decide) hc n

theorem octets?_octetsText {a b c d : Nat} (ha : a < 256) (hb : b < 256) (hc : c < 256)
    (hd : d < 256) : octets? (octetsText a b c d) =
      some (UInt8.ofNat a, UInt8.ofNat b, UInt8.ofNat c, UInt8.ofNat d) := by
  have hdot (n : Nat) : '.' ∉ Nat.toDigits 10 n := not_mem_toDigits_ten (by decide) n
  have hpieces : pieces '.' (octetsText a b c d) =
      [Nat.toDigits 10 a, Nat.toDigits 10 b, Nat.toDigits 10 c, Nat.toDigits 10 d] := by
    rw [octetsText, List.append_assoc, List.cons_append, List.append_assoc, List.cons_append,
      pieces_append_cons (hdot a), pieces_append_cons (hdot b), pieces_append_cons (hdot c),
      pieces_of_not_mem (hdot d)]
  rw [octets?, hpieces]
  simp [octet?_toDigits, ha, hb, hc, hd]

theorem digit?_isSome_of_octet? {cs : List Char} {n : UInt8} (h : octet? cs = some n) :
    ∀ c ∈ cs, (digit? 10 c).isSome = true := by
  rw [octet?] at h
  split at h
  · cases h
  · obtain ⟨k, hk, -⟩ := Option.map_eq_some_iff.1 h
    exact digit?_isSome_of_natural? (Option.filter_eq_some_iff.1 hk).1

theorem octet?_isSome_of_mapM {ps : List (List Char)} {os : List UInt8}
    (h : ps.mapM octet? = some os) : ∀ p ∈ ps, (octet? p).isSome = true := by
  induction ps generalizing os with
  | nil => simp
  | cons p ps ih =>
    rw [List.mapM_cons] at h
    obtain ⟨o, ho, h⟩ := Option.bind_eq_some_iff.1 h
    obtain ⟨os, hos, -⟩ := Option.bind_eq_some_iff.1 h
    intro q hq
    rcases List.mem_cons.1 hq with rfl | hq
    · rw [ho]
      rfl
    · exact ih hos q hq

/-- With a colon in it a text is no four octets. -/
theorem octets?_eq_none {cs : List Char} (h : ':' ∈ cs) : octets? cs = none := by
  have hpiece : ∃ p ∈ pieces '.' cs, ':' ∈ p := exists_mem_pieces h (by decide)
  obtain ⟨p, hp, hcolon⟩ := hpiece
  cases hos : (pieces '.' cs).mapM octet? with
  | none => rw [octets?, hos]
  | some os =>
    obtain ⟨n, hn⟩ := Option.isSome_iff_exists.1 (octet?_isSome_of_mapM hos p hp)
    exact absurd (digit?_isSome_of_octet? hn ':' hcolon) (by decide)

/-! ## Groups -/

theorem group?_toDigits (g : UInt16) : group? (Nat.toDigits 16 g.toNat) = some g := by
  have hlength : ¬ 4 < (Nat.toDigits 16 g.toNat).length := by
    rw [Nat.not_lt, Nat.length_toDigits_le_iff (by decide) (by decide)]
    exact g.toNat_lt
  rw [group?, if_neg hlength, natural?_toDigits (by decide) (by decide), Option.map_some,
    UInt16.ofNat_toNat]

theorem groupsText_cons_cons (g g' : UInt16) (gs : List UInt16) :
    groupsText (g :: g' :: gs) = Nat.toDigits 16 g.toNat ++ ':' :: groupsText (g' :: gs) := by
  simp [groupsText, List.intercalate]

theorem groupsText_singleton (g : UInt16) : groupsText [g] = Nat.toDigits 16 g.toNat := by
  simp [groupsText, List.intercalate]

theorem colon_not_mem_group (g : UInt16) : ':' ∉ Nat.toDigits 16 g.toNat :=
  not_mem_toDigits (by decide) (by decide) (by decide) _

theorem groupsOf?_map (mixed : Bool) (gs : List UInt16) :
    groupsOf? mixed (gs.map fun g => Nat.toDigits 16 g.toNat) = some gs := by
  induction gs with
  | nil => rfl
  | cons g gs ih =>
    cases gs with
    | nil => simp [groupsOf?, group?_toDigits]
    | cons g' gs =>
      simp only [List.map_cons] at ih
      simp [groupsOf?, group?_toDigits, ih]

/-- Groups between colons read back, with or without octets allowed at the end. -/
theorem groups?_groupsText (mixed : Bool) (gs : List UInt16) :
    groups? mixed (groupsText gs) = some gs := by
  cases gs with
  | nil => rfl
  | cons g gs =>
    have hpieces : pieces ':' (groupsText (g :: gs)) =
        (g :: gs).map fun g => Nat.toDigits 16 g.toNat := by
      refine pieces_intercalate (by simp) fun p hp => ?_
      obtain ⟨g', -, rfl⟩ := List.mem_map.1 hp
      exact colon_not_mem_group g'
    have hne : (groupsText (g :: gs)).isEmpty = false := by
      cases gs with
      | nil => simp [groupsText_singleton, Nat.toDigits_ne_nil]
      | cons g' gs => simp [groupsText_cons_cons]
    rw [groups?, hne, hpieces]
    exact groupsOf?_map mixed (g :: gs)

theorem head?_groupsText (g : UInt16) (gs : List UInt16) (rest : List Char) :
    (groupsText (g :: gs) ++ rest).head? ≠ some ':' := by
  obtain ⟨c, cs, hcs⟩ := List.exists_cons_of_ne_nil (@Nat.toDigits_ne_nil g.toNat 16)
  have hcolon := colon_not_mem_group g
  rw [hcs, List.mem_cons, not_or] at hcolon
  have hc : some c ≠ some ':' := fun h => hcolon.1 (Option.some.inj h).symm
  cases gs with
  | nil =>
    rw [groupsText_singleton, hcs]
    exact hc
  | cons g' gs =>
    rw [groupsText_cons_cons, hcs]
    exact hc

/-- Between groups there is one colon, and none behind the last. -/
theorem not_doubled_groupsText (gs : List UInt16) : ¬ Doubled ':' (groupsText gs ++ [':']) := by
  induction gs with
  | nil => decide
  | cons g gs ih =>
    cases gs with
    | nil =>
      rw [groupsText_singleton]
      exact not_doubled_of_not_mem (colon_not_mem_group g)
    | cons g' gs =>
      have hsplit : groupsText (g :: g' :: gs) ++ [':'] =
          (Nat.toDigits 16 g.toNat ++ [':']) ++ (groupsText (g' :: gs) ++ [':']) := by
        rw [groupsText_cons_cons]
        simp
      rw [hsplit, doubled_append_iff]
      rintro (h | h | h)
      · exact not_doubled_of_not_mem (colon_not_mem_group g) h
      · exact ih h
      · exact head?_groupsText g' gs [':'] h.2

/-! ## Runs of zeros -/

theorem eq_zeros_append (gs : List UInt16) :
    gs = List.replicate (leadingZeros gs) 0 ++ gs.drop (leadingZeros gs) := by
  have hzeros : gs.takeWhile (· = 0) = List.replicate (leadingZeros gs) 0 := by
    refine List.eq_replicate_iff.2 ⟨rfl, fun g hg => ?_⟩
    simpa using List.mem_takeWhile_imp hg
  have htake : gs.takeWhile (· = 0) = gs.take (leadingZeros gs) :=
    List.prefix_iff_eq_take.1 (List.takeWhile_prefix _)
  rw [← hzeros, htake, List.take_append_drop]

/-- The run that is left out consists of zeros. -/
theorem eq_longestZeros (gs : List UInt16) :
    gs = gs.take (longestZeros gs).1 ++ List.replicate (longestZeros gs).2 0
      ++ gs.drop ((longestZeros gs).1 + (longestZeros gs).2) := by
  induction gs with
  | nil => rfl
  | cons g gs ih =>
    simp only [longestZeros]
    split
    · simpa using eq_zeros_append (g :: gs)
    · have hsum : (longestZeros gs).1 + 1 + (longestZeros gs).2 =
          (longestZeros gs).1 + (longestZeros gs).2 + 1 := by omega
      simp only [hsum, List.take_succ_cons, List.drop_succ_cons, List.cons_append]
      rw [← ih]

theorem allGroups?_compressed {gs : List UInt16} (h : gs.length = 8) :
    allGroups? (compressed gs) = some gs := by
  have hgs := eq_longestZeros gs
  have hzeros := congrArg List.length hgs
  simp only [compressed]
  split
  · rename_i hrun
    generalize hhead : gs.take (longestZeros gs).1 = head at hgs hzeros ⊢
    generalize htail : gs.drop ((longestZeros gs).1 + (longestZeros gs).2) = tail at hgs hzeros ⊢
    rw [List.length_append, List.length_append, List.length_replicate, h] at hzeros
    have hcut : cutAt ':' (groupsText head ++ [':', ':'] ++ groupsText tail) =
        some (groupsText head, groupsText tail) := by
      rw [List.append_assoc]
      exact cutAt_append (not_doubled_groupsText head) _
    have hfew : head.length + tail.length ≤ 7 := by omega
    have hmissing : 8 - head.length - tail.length = (longestZeros gs).2 := by omega
    rw [allGroups?, hcut]
    simp only [groups?_groupsText, Option.bind_eq_bind, Option.bind_some, if_pos hfew, hmissing]
    rw [← hgs]
  · have hcut : cutAt ':' (groupsText gs) = none := by
      rw [cutAt_eq_none_iff]
      exact fun hd => not_doubled_groupsText gs (doubled_append_mark_iff.2 (.inl hd))
    rw [allGroups?, hcut]
    exact groups?_groupsText true gs

theorem colon_mem_compressed {gs : List UInt16} (h : gs.length = 8) : ':' ∈ compressed gs := by
  simp only [compressed]
  split
  · simp
  · obtain ⟨g, gs, rfl⟩ := List.exists_cons_of_length_pos (by omega : 0 < gs.length)
    rw [List.length_cons] at h
    obtain ⟨g', gs, rfl⟩ := List.exists_cons_of_length_pos (by omega : 0 < gs.length)
    simp [groupsText_cons_cons]

/-! ## Mixed form -/

theorem pair_octets (x : UInt16) :
    pair (UInt8.ofNat (x.toNat / 256)) (UInt8.ofNat (x.toNat % 256)) = x := by
  have hx := x.toNat_lt
  have hdiv : x.toNat / 256 < 256 := by omega
  have hmod : x.toNat % 256 < 256 := by omega
  have hhigh : (UInt8.ofNat (x.toNat / 256)).toNat = x.toNat / 256 := UInt8.toNat_ofNat_of_lt hdiv
  have hlow : (UInt8.ofNat (x.toNat % 256)).toNat = x.toNat % 256 := UInt8.toNat_ofNat_of_lt hmod
  rw [pair, hhigh, hlow, Nat.div_add_mod', UInt16.ofNat_toNat]

theorem allGroups?_mixed (x y : UInt16) :
    allGroups? ("::ffff:".toList
        ++ octetsText (x.toNat / 256) (x.toNat % 256) (y.toNat / 256) (y.toNat % 256)) =
      some [0, 0, 0, 0, 0, 0xFFFF, x, y] := by
  have hx := x.toNat_lt
  have hy := y.toNat_lt
  have hoctets := octets?_octetsText (by omega : x.toNat / 256 < 256) (by omega : x.toNat % 256 < 256)
    (by omega : y.toNat / 256 < 256) (by omega : y.toNat % 256 < 256)
  generalize hcs : octetsText (x.toNat / 256) (x.toNat % 256) (y.toNat / 256) (y.toNat % 256) = cs
    at hoctets ⊢
  have hcolon : ':' ∉ cs := by
    intro hm
    rw [octets?_eq_none hm] at hoctets
    cases hoctets
  have hlong : 4 < cs.length := by
    have hpos (n : Nat) := @Nat.length_toDigits_pos 10 n
    have h1 := hpos (x.toNat / 256)
    have h2 := hpos (x.toNat % 256)
    have h3 := hpos (y.toNat / 256)
    have h4 := hpos (y.toNat % 256)
    rw [← hcs, octetsText]
    simp only [List.length_append, List.length_cons]
    omega
  have hgroup : group? cs = none := by rw [group?, if_pos hlong]
  have htail : groups? true ("ffff:".toList ++ cs) = some [0xFFFF, x, y] := by
    have hpieces : pieces ':' ("ffff:".toList ++ cs) = ["ffff".toList, cs] := by
      have happend : pieces ':' ("ffff".toList ++ ':' :: cs) = "ffff".toList :: pieces ':' cs :=
        pieces_append_cons (by decide) cs
      rw [pieces_of_not_mem hcolon] at happend
      exact happend
    have hffff : group? "ffff".toList = some 0xFFFF := by decide
    have hlast : groupsOf? true [cs] = some [x, y] := by
      simp [groupsOf?, hgroup, hoctets, pair_octets]
    have hnonempty : ("ffff:".toList ++ cs).isEmpty = false := rfl
    rw [groups?, hnonempty, if_neg Bool.false_ne_true, hpieces, groupsOf?, hffff, hlast]
    · rfl
    · simp
  have hcut : cutAt ':' ("::ffff:".toList ++ cs) = some ([], "ffff:".toList ++ cs) := rfl
  have hbefore : groups? false [] = some [] := rfl
  rw [allGroups?, hcut]
  simp only [hbefore, htail]
  rfl

/-! ## Addresses -/

/-- The text of an address denotes the address. -/
theorem ofChars?_chars (a : Address) : ofChars? a.chars = some a := by
  fun_cases chars a with
  | case1 a b c d =>
    rw [ofChars?, octets?_octetsText a.toNat_lt b.toNat_lt c.toNat_lt d.toNat_lt]
    simp only [UInt8.ofNat_toNat]
  | case2 x y size =>
    have hcolon : ':' ∈ "::ffff:".toList := by decide
    rw [ofChars?, octets?_eq_none (List.mem_append_left _ hcolon), allGroups?_mixed]
    rfl
  | case3 gs size =>
    rw [ofChars?, octets?_eq_none (colon_mem_compressed size), allGroups?_compressed size]
    exact dif_pos size

theorem isLiteral_text (a : Address) : isLiteral a.text = true := by
  rw [isLiteral, ofText?, text, String.toList_ofList, ofChars?_chars]
  rfl

end Egress.Address
