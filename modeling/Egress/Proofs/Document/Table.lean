import Egress.Proofs.Document.Merge
import Mathlib.Data.List.Induction
import Mathlib.Data.List.Nodup

/-!
# Tables by their lookups

Ordered tables with related lookups have related entries one by one (`Keyed.forall₂_of_get?`), so an
ordered table is determined by what is under its keys (`Keyed.eq_of_get?`). A list of entries
with distinct keys can be put in order without changing that (`Keyed.get?_ordered`), and a table
that has all keys of the one below it, and that wins at each of them, hides it (`merge_eq_self`).
-/

set_option autoImplicit false

namespace Egress

namespace Keyed

variable {α : Type}

theorem nodup_of_ascending {m : List (String × α)} (h : (keys m).Pairwise (· < ·)) :
    (keys m).Nodup :=
  h.imp String.ne_of_lt

theorem get?_cons_of_lt {m : List (String × α)} {j k : String} {v : α}
    (h : (keys ((k, v) :: m)).Pairwise (· < ·)) (hj : j < k) : get? j ((k, v) :: m) = none := by
  rw [get?_eq_none_iff]
  intro hmem
  rcases List.mem_cons.1 hmem with rfl | hmem
  · exact String.lt_irrefl _ hj
  · exact String.lt_asymm hj ((List.pairwise_cons.1 h).1 j hmem)

/-- Ordered tables whose lookups are related have related entries one by one. -/
theorem forall₂_of_get? {β : Type} {R : String → α → β → Prop} {m : List (String × α)}
    {m' : List (String × β)} (h : (keys m).Pairwise (· < ·)) (h' : (keys m').Pairwise (· < ·))
    (hget : ∀ k, Option.Rel (R k) (get? k m) (get? k m')) :
    List.Forall₂ (fun e e' => e.1 = e'.1 ∧ R e.1 e.2 e'.2) m m' := by
  induction m generalizing m' with
  | nil =>
    cases m' with
    | nil => exact .nil
    | cons e' rest' =>
      have hk := hget e'.1
      simp [get?] at hk
  | cons e rest ih =>
    obtain ⟨k, v⟩ := e
    cases m' with
    | nil =>
      have hk := hget k
      simp [get?] at hk
    | cons e' rest' =>
      obtain ⟨k', v'⟩ := e'
      -- of two first keys the smaller one would be missing in the other table
      obtain rfl : k = k' := by
        refine String.le_antisymm (String.not_lt.1 fun hlt => ?_) (String.not_lt.1 fun hlt => ?_)
        · have hk' := hget k'
          rw [get?_cons_of_lt h hlt] at hk'
          simp [get?] at hk'
        · have hk := hget k
          rw [get?_cons_of_lt h' hlt] at hk
          simp [get?] at hk
      obtain ⟨hk, hrest⟩ := List.pairwise_cons.1 h
      obtain ⟨hk', hrest'⟩ := List.pairwise_cons.1 h'
      refine .cons ⟨rfl, by simpa [get?] using hget k⟩ (ih hrest hrest' fun j => ?_)
      by_cases hj : k = j
      · subst hj
        rw [get?_eq_none_iff.2 fun hmem => String.lt_irrefl _ (hk _ hmem),
          get?_eq_none_iff.2 fun hmem => String.lt_irrefl _ (hk' _ hmem)]
        exact .none
      · simpa [get?, hj] using hget j

/-- Ordered tables with the same lookups are equal. -/
theorem eq_of_get? {m m' : List (String × α)} (h : (keys m).Pairwise (· < ·))
    (h' : (keys m').Pairwise (· < ·)) (hget : ∀ k, get? k m = get? k m') : m = m' := by
  have hrel (k : String) : Option.Rel Eq (get? k m) (get? k m') := by
    rw [hget]
    cases get? k m' <;> constructor
    rfl
  have hsame : List.Forall₂ (fun e e' => e.1 = e'.1 ∧ e.2 = e'.2) m m' := forall₂_of_get? h h' hrel
  rw [← List.forall₂_eq_eq_eq]
  exact hsame.imp fun e e' he => Prod.ext he.1 he.2

/-- Putting in what is there already changes nothing. -/
theorem insert_of_get? {m : List (String × α)} (h : (keys m).Pairwise (· < ·)) {k : String} {v : α}
    (hv : get? k m = some v) : insert k v m = m := by
  refine eq_of_get? (ascending_insert v h) h fun other => ?_
  rw [get?_insert]
  split
  · rename_i hk
    rw [← hk, hv]
  · rfl

/-! ## Putting entries in order -/

theorem ordered_append_singleton (m : List (String × α)) (e : String × α) :
    ordered (m ++ [e]) = insert e.1 e.2 (ordered m) := by
  rw [ordered, List.foldl_append]
  rfl

theorem ascending_ordered (m : List (String × α)) : (keys (ordered m)).Pairwise (· < ·) := by
  induction m using List.reverseRecOn with
  | nil => exact .nil
  | append_singleton m e ih =>
    rw [ordered_append_singleton]
    exact ascending_insert e.2 ih

theorem get?_ordered {m : List (String × α)} (h : (keys m).Nodup) (k : String) :
    get? k (ordered m) = get? k m := by
  induction m using List.reverseRecOn with
  | nil => rfl
  | append_singleton m e ih =>
    obtain ⟨key, v⟩ := e
    rw [keys, List.map_append, List.nodup_append] at h
    obtain ⟨hm, -, hdisjoint⟩ := h
    rw [ordered_append_singleton, get?_insert, ih hm, get?_append]
    by_cases hk : key = k
    · subst hk
      have hnone : get? key m = none :=
        get?_eq_none_iff.2 fun hmem => hdisjoint key hmem key List.mem_cons_self rfl
      simp [get?, hnone]
    · simp [get?, hk]

theorem mem_of_mem_ordered {m : List (String × α)} {e : String × α} (h : e ∈ ordered m) :
    e ∈ m := by
  induction m using List.reverseRecOn with
  | nil => exact h
  | append_singleton m e' ih =>
    rw [ordered_append_singleton] at h
    rcases mem_insert h with rfl | h
    · exact List.mem_append_right _ List.mem_cons_self
    · exact List.mem_append_left _ (ih h)

theorem mem_keys_ordered_iff {m : List (String × α)} {k : String} :
    k ∈ keys (ordered m) ↔ k ∈ keys m := by
  induction m using List.reverseRecOn with
  | nil => exact Iff.rfl
  | append_singleton m e ih =>
    rw [ordered_append_singleton, ← isSome_get?_iff, get?_insert, keys, List.map_append,
      List.mem_append, ← keys, ← ih, ← isSome_get?_iff]
    by_cases hk : e.1 = k
    · simp [hk]
    · simp [hk, Ne.symm hk]

end Keyed

namespace Document

theorem ascending_merge {base : Table} (h : (Keyed.keys base).Pairwise (· < ·))
    (incoming : Table) : (Keyed.keys (merge base incoming)).Pairwise (· < ·) := by
  induction incoming generalizing base with
  | nil => exact h
  | cons e rest ih =>
    rw [merge]
    exact ih (Keyed.ascending_insert _ h)

/-- A table hides the one it is laid over if it has all its keys and wins at each of them. -/
theorem merge_eq_self {base incoming : Table} (hbase : (Keyed.keys base).Pairwise (· < ·))
    (h : (Keyed.keys incoming).Pairwise (· < ·))
    (hkeys : ∀ k ∈ Keyed.keys base, k ∈ Keyed.keys incoming)
    (hwins : ∀ k v, Keyed.get? k incoming = some v → overlay (Keyed.get? k base) v = v) :
    merge base incoming = incoming := by
  refine Keyed.eq_of_get? (ascending_merge hbase incoming) h fun k => ?_
  rw [get?_merge (Keyed.nodup_of_ascending h)]
  cases hk : Keyed.get? k incoming with
  | some v => exact congrArg some (hwins k v hk)
  | none =>
    rw [Keyed.get?_eq_none_iff] at hk ⊢
    exact fun hmem => hk (hkeys k hmem)

theorem merge_ordered_eq_self {base m : Table} (hbase : (Keyed.keys base).Pairwise (· < ·))
    (hkeys : ∀ k ∈ Keyed.keys base, k ∈ Keyed.keys m)
    (hwins : ∀ e ∈ m, overlay (Keyed.get? e.1 base) e.2 = e.2) :
    merge base (Keyed.ordered m) = Keyed.ordered m :=
  merge_eq_self hbase (Keyed.ascending_ordered m)
    (fun k hk => Keyed.mem_keys_ordered_iff.2 (hkeys k hk))
    fun _ _ hv => hwins _ (Keyed.mem_of_mem_ordered (Keyed.mem_of_get? hv))

end Document

end Egress
