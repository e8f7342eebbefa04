import Egress.Document.Value

/-!
# Ordered values

A table lists its entries in strictly ascending order of their keys, so it has each key once
(`Value.Ordered`). Putting in an entry, taking one out and laying a table over another keep that
(`ordered_insert`, `ordered_erase`, `merge_ordered`).
-/

set_option autoImplicit false

namespace Egress

/-! ## Entries in order -/

namespace Keyed

variable {α : Type}

theorem mem_insert {key : String} {value : α} {m : List (String × α)} {e : String × α}
    (h : e ∈ insert key value m) : e = (key, value) ∨ e ∈ m := by
  induction m with
  | nil => exact .inl (List.mem_singleton.1 h)
  | cons e' rest ih =>
    obtain ⟨k, v⟩ := e'
    simp only [insert] at h
    split at h
    · exact (List.mem_cons.1 h).imp_right (List.mem_cons_of_mem _)
    · split at h
      · exact List.mem_cons.1 h
      · rcases List.mem_cons.1 h with rfl | h
        · exact .inr List.mem_cons_self
        · exact (ih h).imp_right (List.mem_cons_of_mem _)

theorem ascending_insert {key : String} {m : List (String × α)} (value : α)
    (h : (keys m).Pairwise (· < ·)) : (keys (insert key value m)).Pairwise (· < ·) := by
  induction m with
  | nil => simp [insert, keys]
  | cons e rest ih =>
    obtain ⟨k, v⟩ := e
    obtain ⟨hk, hrest⟩ := List.pairwise_cons.1 h
    simp only [insert]
    split
    · rename_i heq
      exact heq ▸ h
    · rename_i hne
      split
      · rename_i hlt
        refine List.pairwise_cons.2 ⟨fun k' hk' => ?_, h⟩
        rcases List.mem_cons.1 hk' with rfl | hk'
        · exact hlt
        · exact String.lt_trans hlt (hk k' hk')
      · rename_i hge
        have hlt : k < key := Std.lt_of_le_of_ne (String.not_lt.1 hge) hne
        refine List.pairwise_cons.2 ⟨fun k' hk' => ?_, ih hrest⟩
        obtain ⟨e, he, rfl⟩ := List.mem_map.1 hk'
        rcases mem_insert he with rfl | he
        · exact hlt
        · exact hk e.1 (List.mem_map_of_mem he)

end Keyed

namespace Document

mutual

/-- Every table in the value has its keys in strictly ascending order. -/
def Value.Ordered : Value → Prop
  | .list items => OrderedItems items
  | .table entries => (Keyed.keys entries).Pairwise (· < ·) ∧ OrderedEntries entries
  | _ => True

/-- The items are so. -/
def OrderedItems : List Value → Prop
  | [] => True
  | v :: rest => v.Ordered ∧ OrderedItems rest

/-- The values of some entries are so. -/
def OrderedEntries : List (String × Value) → Prop
  | [] => True
  | (_, v) :: rest => v.Ordered ∧ OrderedEntries rest

end

theorem ordered_list_iff {items : List Value} :
    (Value.list items).Ordered ↔ ∀ v ∈ items, v.Ordered := by
  rw [Value.Ordered]
  induction items with
  | nil => simp [OrderedItems]
  | cons v items ih => simp [OrderedItems, ih]

theorem ordered_table_iff {es : Table} :
    (Value.table es).Ordered ↔ (Keyed.keys es).Pairwise (· < ·) ∧ ∀ e ∈ es, e.2.Ordered := by
  have hentries : OrderedEntries es ↔ ∀ e ∈ es, e.2.Ordered := by
    induction es with
    | nil => simp [OrderedEntries]
    | cons e es ih => simp [OrderedEntries, ih]
  rw [Value.Ordered, hentries]

namespace Value

theorem Ordered.child? {v w : Value} {k : String} (h : v.Ordered) (hw : v.child? k = some w) :
    w.Ordered := by
  cases v with
  | table es => exact (ordered_table_iff.1 h).2 _ (Keyed.mem_of_get? hw)
  | _ => cases hw

theorem Ordered.at? {v w : Value} {path : List String} (h : v.Ordered)
    (hw : v.at? path = some w) : w.Ordered := by
  induction path generalizing v with
  | nil =>
    obtain rfl := Option.some.inj (v.at?_nil ▸ hw)
    exact h
  | cons k path ih =>
    obtain ⟨child, hc, hw⟩ := Option.bind_eq_some_iff.1 hw
    exact ih (h.child? hc) hw

theorem Ordered.ascending_keys {v : Value} (h : v.Ordered) : v.keys.Pairwise (· < ·) := by
  cases v with
  | table es => exact (ordered_table_iff.1 h).1
  | _ => exact .nil

end Value

theorem ordered_insert {es : Table} {k : String} {v : Value} (h : (Value.table es).Ordered)
    (hv : v.Ordered) : (Value.table (Keyed.insert k v es)).Ordered := by
  obtain ⟨hkeys, hvalues⟩ := ordered_table_iff.1 h
  refine ordered_table_iff.2 ⟨Keyed.ascending_insert v hkeys, fun e he => ?_⟩
  rcases Keyed.mem_insert he with rfl | he
  · exact hv
  · exact hvalues e he

theorem ordered_erase {es : Table} (h : (Value.table es).Ordered) (k : String) :
    (Value.table (Keyed.erase k es)).Ordered := by
  obtain ⟨hkeys, hvalues⟩ := ordered_table_iff.1 h
  have hsub := Keyed.erase_sublist k es
  exact ordered_table_iff.2 ⟨hkeys.sublist (hsub.map Prod.fst), fun e he => hvalues e (hsub.subset he)⟩

/-! ## Laying one table over another -/

mutual

theorem overlay_ordered {old : Option Value} (hold : ∀ w, old = some w → w.Ordered) :
    ∀ v : Value, v.Ordered → (overlay old v).Ordered
  | .table incoming, h => by
    rcases old with - | w
    · exact h
    · cases w with
      | table existing => exact merge_ordered (hold _ rfl) incoming h
      | _ => exact h
  | .text _, h | .integer _, h | .float _, h | .boolean _, h | .datetime _, h | .list _, h => h

theorem merge_ordered {base : Table} (hbase : (Value.table base).Ordered) :
    ∀ incoming : Table, (Value.table incoming).Ordered → (Value.table (merge base incoming)).Ordered
  | [], _ => hbase
  | (k, v) :: rest, h => by
    obtain ⟨hkeys, hvalues⟩ := ordered_table_iff.1 h
    have hrest : (Value.table rest).Ordered :=
      ordered_table_iff.2 ⟨hkeys.of_cons, fun e he => hvalues e (List.mem_cons_of_mem _ he)⟩
    have hold (w : Value) (hw : Keyed.get? k base = some w) : w.Ordered :=
      (ordered_table_iff.1 hbase).2 _ (Keyed.mem_of_get? hw)
    rw [merge]
    exact merge_ordered
      (ordered_insert hbase (overlay_ordered hold v (hvalues _ List.mem_cons_self))) rest hrest

end

end Document

end Egress
