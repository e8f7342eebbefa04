import Egress.Proofs.Document.Ordered

/-!
# Laying one document over another

What is at a path when a value is laid over what was there: below a value that is no table there is
only what was laid over (`at?_overlay_hidden`), and elsewhere the two values at the path meet
(`at?_overlay_open`). So the upper document wins wherever it says something, the lower one shows
where the upper is silent, and where both have tables the keys of both are there
(`overlay_laidOver`).
-/

set_option autoImplicit false

namespace Egress

namespace Keyed

variable {κ α : Type} [DecidableEq κ]

theorem get?_erase {m : List (κ × α)} (h : (keys m).Nodup) (key other : κ) :
    get? other (erase key m) = if key = other then none else get? other m := by
  induction m with
  | nil => simp [erase]
  | cons e rest ih =>
    obtain ⟨k, v⟩ := e
    obtain ⟨hk, hrest⟩ := List.nodup_cons.1 h
    by_cases heq : k = key
    · subst heq
      rw [erase, if_pos rfl, get?]
      split
      · rename_i ho
        rw [get?_eq_none_iff, ← ho]
        exact hk
      · rfl
    · rw [erase, if_neg heq, get?, get?, ih hrest]
      by_cases ho : k = other
      · subst ho
        rw [if_pos rfl, if_pos rfl, if_neg (Ne.symm heq)]
      · rw [if_neg ho, if_neg ho]

end Keyed

namespace Document

/-! ## Values below values -/

namespace Value

theorem shape_eq_table_iff {v : Value} : v.shape = .table ↔ ∃ es, v = .table es := by
  cases v <;> simp [shape]

/-- Only tables have something below them. -/
theorem at?_eq_none_of_ne_table {v : Value} (h : v.shape ≠ .table) {path : List String}
    (hne : path ≠ []) : v.at? path = none := by
  cases path with
  | nil => exact absurd rfl hne
  | cons k path =>
    cases v with
    | table es => exact absurd rfl h
    | _ => rfl

/-- What stands above a value is a table. -/
theorem shape_of_above {v w : Value} {q p : List String} (hq : q <+: p) (hne : q ≠ p)
    (hp : (v.at? p).isSome = true) (hw : v.at? q = some w) : w.shape = .table := by
  obtain ⟨rest, rfl⟩ := hq
  apply Classical.byContradiction
  intro hs
  rw [at?_append, hw, Option.bind_some, at?_eq_none_of_ne_table hs] at hp
  · cases hp
  · rintro rfl
    exact hne (List.append_nil q).symm

end Value

/-! ## Overlays -/

/-- A value over nothing is the value. -/
theorem overlay_none (v : Value) : overlay none v = v := by
  cases v <;> rfl

/-- A value over something that is no table replaces it. -/
theorem overlay_over_ne_table {old : Option Value} (v : Value) (h : ∀ b, old ≠ some (.table b)) :
    overlay old v = v := by
  cases v with
  | table es =>
    cases old with
    | none => rfl
    | some u =>
      cases u with
      | table b => exact absurd rfl (h b)
      | _ => rfl
  | _ => rfl

/-- A value that is no table replaces what was there. -/
theorem overlay_eq_of_ne_table (old : Option Value) {v : Value} (h : v.shape ≠ .table) :
    overlay old v = v := by
  cases v with
  | table es => exact absurd rfl h
  | _ => rfl

theorem get?_merge {incoming : Table} (hd : (Keyed.keys incoming).Nodup) (base : Table)
    (k : String) : Keyed.get? k (merge base incoming) = match Keyed.get? k incoming with
      | some v => some (overlay (Keyed.get? k base) v)
      | none => Keyed.get? k base := by
  induction incoming generalizing base with
  | nil => rfl
  | cons e rest ih =>
    obtain ⟨key, v⟩ := e
    obtain ⟨hkey, hrest⟩ := List.nodup_cons.1 hd
    rw [merge, ih hrest, Keyed.get?_insert, Keyed.get?]
    by_cases hk : key = k
    · subst hk
      rw [Keyed.get?_eq_none_iff.2 hkey, if_pos rfl, if_pos rfl]
    · rw [if_neg hk, if_neg hk]

/-- Where the value laid over has only tables above, the values at a path meet. -/
theorem at?_overlay_open {old : Option Value} {v : Value} (ho : v.Ordered) {path : List String}
    (hopen : ∀ q w, q <+: path → q ≠ path → v.at? q = some w → w.shape = .table) :
    (overlay old v).at? path = match v.at? path with
      | some w => some (overlay (old.bind (Value.at? · path)) w)
      | none => old.bind (Value.at? · path) := by
  induction path generalizing old v with
  | nil =>
    cases old <;> simp
  | cons k path ih =>
    obtain ⟨es, rfl⟩ := Value.shape_eq_table_iff.1
      (hopen [] v List.nil_prefix nofun (Value.at?_nil v))
    by_cases hold : ∃ b, old = some (.table b)
    · -- two tables: below each key the entries meet
      obtain ⟨b, rfl⟩ := hold
      have hd : (Keyed.keys es).Nodup := (ordered_table_iff.1 ho).1.imp String.ne_of_lt
      have hmerge : overlay (some (.table b)) (.table es) = .table (merge b es) := rfl
      rw [hmerge, Value.at?_cons, Value.child?, get?_merge hd, Value.at?_cons, Value.child?,
        Option.bind_some, Value.at?_cons, Value.child?]
      cases hk : Keyed.get? k es with
      | none => rfl
      | some w =>
        refine ih (ho.child? hk) fun q u hq hne hu => ?_
        refine hopen (k :: q) u ?_ (fun heq => hne (List.cons.inj heq).2) ?_
        · exact List.cons_prefix_cons.2 ⟨rfl, hq⟩
        · rw [Value.at?_cons, Value.child?, hk]
          exact hu
    · -- nothing, or no table, under a table: it is as if there were nothing
      have hnone : old.bind (Value.at? · (k :: path)) = none := by
        cases old with
        | none => rfl
        | some u =>
          refine Value.at?_eq_none_of_ne_table (fun hs => hold ?_) nofun
          obtain ⟨b, rfl⟩ := Value.shape_eq_table_iff.1 hs
          exact ⟨b, rfl⟩
      rw [overlay_over_ne_table _ fun b hb => hold ⟨b, hb⟩, hnone]
      cases (Value.table es).at? (k :: path) with
      | none => rfl
      | some w => exact congrArg some (overlay_none w).symm

/-- The value at a path is laid over what was there. -/
theorem at?_overlay_some (old : Option Value) {v w : Value} (ho : v.Ordered) {path : List String}
    (hw : v.at? path = some w) :
    (overlay old v).at? path = some (overlay (old.bind (Value.at? · path)) w) := by
  have hsome : (v.at? path).isSome = true := by
    rw [hw]
    rfl
  rw [at?_overlay_open ho fun q u hq hne hu => Value.shape_of_above hq hne hsome hu, hw]

/-- Below a value laid over that is no table there is nothing. -/
theorem at?_overlay_hidden (old : Option Value) {v w : Value} (ho : v.Ordered)
    {q path : List String} (hq : q <+: path) (hne : q ≠ path) (hw : v.at? q = some w)
    (hs : w.shape ≠ .table) : (overlay old v).at? path = none := by
  have hthere := at?_overlay_some old ho hw
  rw [overlay_eq_of_ne_table _ hs] at hthere
  apply Option.not_isSome_iff_eq_none.1
  intro hp
  exact hs (Value.shape_of_above hq hne hp hthere)

/-- `loaded` is `document` laid over `base` (module doc). -/
structure LaidOver (base document loaded : Value) : Prop where
  /-- What is no table replaces whatever was at its path and below. -/
  replaced : ∀ q path v, q <+: path → document.at? q = some v → v.shape ≠ .table →
    loaded.at? path = document.at? path ∧ (q ≠ path → loaded.at? path = none)
  silent : ∀ path, (∀ q v, q <+: path → document.at? q = some v → v.shape = .table) →
    document.at? path = none → loaded.at? path = base.at? path
  tables : ∀ path es, document.at? path = some (.table es) →
    ∃ es', loaded.at? path = some (.table es') ∧
      ∀ k, k ∈ Keyed.keys es' ↔
        k ∈ Keyed.keys es ∨ ∃ bs, base.at? path = some (.table bs) ∧ k ∈ Keyed.keys bs

/-- A key the document does not have shows what was there. -/
theorem LaidOver.child?_silent {base loaded : Value} {es : Table}
    (h : LaidOver base (.table es) loaded) {k : String} (hk : Keyed.get? k es = none) :
    loaded.child? k = base.child? k := by
  have hnone : (Value.table es).at? [k] = none := (Value.at?_singleton _ k).trans hk
  rw [← Value.at?_singleton, ← Value.at?_singleton]
  refine h.silent [k] (fun q v hq hv => ?_) hnone
  rcases List.prefix_cons_iff.1 hq with rfl | ⟨q', rfl, hq'⟩
  · rw [Value.at?_nil] at hv
    obtain rfl := Option.some.inj hv
    rfl
  · obtain rfl := List.prefix_nil.1 hq'
    rw [hnone] at hv
    cases hv

theorem mem_keys_merge {base incoming : Table} (hd : (Keyed.keys incoming).Nodup) {k : String} :
    k ∈ Keyed.keys (merge base incoming) ↔ k ∈ Keyed.keys incoming ∨ k ∈ Keyed.keys base := by
  rw [← Keyed.isSome_get?_iff, ← Keyed.isSome_get?_iff, ← Keyed.isSome_get?_iff, get?_merge hd]
  cases Keyed.get? k incoming <;> simp

/-- An ordered value laid over another is laid over it at every path. -/
theorem overlay_laidOver (base : Value) {document : Value} (ho : document.Ordered) :
    LaidOver base document (overlay (some base) document) := by
  constructor
  · intro q path v hq hv hs
    by_cases hne : q = path
    · subst hne
      have hthere := at?_overlay_some (some base) ho hv
      rw [overlay_eq_of_ne_table _ hs] at hthere
      exact ⟨hthere.trans hv.symm, fun h => absurd rfl h⟩
    · have hnone := at?_overlay_hidden (some base) ho hq hne hv hs
      refine ⟨hnone.trans (Option.not_isSome_iff_eq_none.1 fun hp => ?_).symm, fun _ => hnone⟩
      exact hs (Value.shape_of_above hq hne hp hv)
  · intro path htables hnone
    rw [at?_overlay_open ho fun q v hq _ hv => htables q v hq hv, hnone, Option.bind_some]
  · intro path es hes
    have hthere := at?_overlay_some (some base) ho hes
    rw [Option.bind_some] at hthere
    have hd : (Keyed.keys es).Nodup :=
      (ordered_table_iff.1 (ho.at? hes)).1.imp String.ne_of_lt
    by_cases hbase : ∃ bs, base.at? path = some (.table bs)
    · obtain ⟨bs, hbs⟩ := hbase
      rw [hbs] at hthere
      refine ⟨merge bs es, hthere, fun k => ?_⟩
      rw [mem_keys_merge hd, hbs]
      simp
    · rw [overlay_over_ne_table _ fun b hb => hbase ⟨b, hb⟩] at hthere
      refine ⟨es, hthere, fun k => ⟨.inl, fun h => ?_⟩⟩
      rcases h with hk | ⟨bs, hbs, -⟩
      · exact hk
      · exact absurd ⟨bs, hbs⟩ hbase

end Document

end Egress
