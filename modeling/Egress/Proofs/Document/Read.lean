import Egress.Config.Basic
import Egress.Proofs.Document.Ordered

/-!
# What is read is ordered

The finished values in a document under construction are ordered (`OrderedDraft`), since every value
that is read is (`value?_ordered`) and the statements of a document only put values in
(`Draft.add?_ordered`). So the tables that are read are ordered (`read_ordered`), and so is every
configuration that a text denotes (`Config.parse_ordered`).
-/

set_option autoImplicit false

namespace Egress

namespace Document

/-! ## Documents under construction -/

mutual

/-- The finished values in an entry are ordered. -/
def Item.Ordered : Item → Prop
  | .value v => v.Ordered
  | .table _ entries => OrderedDraft entries
  | .tables last before => OrderedDraft last ∧ OrderedDrafts before

/-- The finished values in a table under construction are ordered. -/
def OrderedDraft : List (String × Item) → Prop
  | [] => True
  | (_, i) :: rest => i.Ordered ∧ OrderedDraft rest

/-- The finished values in some tables under construction are ordered. -/
def OrderedDrafts : List (List (String × Item)) → Prop
  | [] => True
  | es :: rest => OrderedDraft es ∧ OrderedDrafts rest

end

theorem orderedDraft_nil : OrderedDraft [] := trivial

theorem orderedDraft_iff {es : Items} : OrderedDraft es ↔ ∀ e ∈ es, e.2.Ordered := by
  induction es with
  | nil => simp [OrderedDraft]
  | cons e es ih => simp [OrderedDraft, ih]

theorem OrderedDraft.get? {es : Items} {k : String} {i : Item} (h : OrderedDraft es)
    (hi : Keyed.get? k es = some i) : i.Ordered :=
  orderedDraft_iff.1 h _ (Keyed.mem_of_get? hi)

theorem OrderedDraft.set {es : Items} {i : Item} (h : OrderedDraft es) (k : String)
    (hi : i.Ordered) : OrderedDraft (Keyed.set k i es) := by
  refine orderedDraft_iff.2 fun e he => ?_
  rcases Keyed.mem_set he with rfl | he
  · exact hi
  · exact orderedDraft_iff.1 h e he

theorem OrderedDraft.erase {es : Items} (h : OrderedDraft es) (k : String) :
    OrderedDraft (Keyed.erase k es) :=
  orderedDraft_iff.2 fun e he => orderedDraft_iff.1 h e ((Keyed.erase_sublist k es).subset he)

theorem datetime?_ordered {text : String} {v : Value} (h : datetime? text = some v) :
    v.Ordered := by
  unfold datetime? at h
  split at h
  · obtain rfl := Option.some.inj h
    trivial
  · split at h
    · obtain rfl := Option.some.inj h
      trivial
    · cases h

mutual

theorem Item.close?_ordered : ∀ {i : Item} {v : Value}, i.Ordered → i.close? = some v → v.Ordered
  | .value _, _, h, hv => by
    obtain rfl := Option.some.inj hv
    exact h
  | .table _ _, _, h, hv => closeTable?_ordered h hv
  | .tables last before, v, h, hv => by
    simp only [Item.close?, Option.bind_eq_bind, Option.bind_eq_some_iff, Option.some.injEq] at hv
    obtain ⟨vs, hvs, w, hw, rfl⟩ := hv
    refine ordered_list_iff.2 fun u hu => ?_
    rcases List.mem_append.1 hu with hu | hu
    · exact closeTables?_ordered h.2 hvs u (List.mem_reverse.1 hu)
    · obtain rfl := List.mem_singleton.1 hu
      exact closeTable?_ordered h.1 hw

theorem closeTable?_ordered : ∀ {es : Items} {v : Value}, OrderedDraft es →
    closeTable? es = some v → v.Ordered
  | [], _, _, hv => by
    obtain rfl := Option.some.inj hv
    exact ordered_table_iff.2 ⟨.nil, by simp⟩
  | (k, i) :: rest, v, h, hv => by
    by_cases hk : k = datetimeKey
    · obtain ⟨s, hs⟩ : ∃ s, datetime? s = some v := by
        rcases i with w | _ | _
        · cases w with
          | text s => exact ⟨s, by simpa [closeTable?, hk] using hv⟩
          | _ => simp [closeTable?, hk] at hv
        · simp [closeTable?, hk] at hv
        · simp [closeTable?, hk] at hv
      exact datetime?_ordered hs
    · simp only [closeTable?, if_neg hk, Option.bind_eq_bind, Option.bind_eq_some_iff,
        Option.some.injEq] at hv
      obtain ⟨w, hw, es, hes, rfl⟩ := hv
      exact ordered_insert (closeEntries?_ordered h.2 hes) (Item.close?_ordered h.1 hw)

theorem closeEntries?_ordered : ∀ {es : Items} {table : Table}, OrderedDraft es →
    closeEntries? es = some table → (Value.table table).Ordered
  | [], _, _, hv => by
    obtain rfl := Option.some.inj hv
    exact ordered_table_iff.2 ⟨.nil, by simp⟩
  | (k, i) :: rest, table, h, hv => by
    simp only [closeEntries?, Option.bind_eq_bind, Option.bind_eq_some_iff, Option.some.injEq] at hv
    obtain ⟨w, hw, es, hes, rfl⟩ := hv
    exact ordered_insert (closeEntries?_ordered h.2 hes) (Item.close?_ordered h.1 hw)

theorem closeTables?_ordered : ∀ {drafts : List Items} {vs : List Value}, OrderedDrafts drafts →
    closeTables? drafts = some vs → ∀ v ∈ vs, v.Ordered
  | [], _, _, hvs, v, hv => by
    obtain rfl := Option.some.inj hvs
    cases hv
  | es :: rest, vs, h, hvs, v, hv => by
    simp only [closeTables?, Option.bind_eq_bind, Option.bind_eq_some_iff, Option.some.injEq] at hvs
    obtain ⟨w, hw, ws, hws, rfl⟩ := hvs
    rcases List.mem_cons.1 hv with rfl | hv
    · exact closeTable?_ordered h.1 hw
    · exact closeTables?_ordered h.2 hws v hv

end

theorem addDotted_ordered {key : String} {value : Value} (hvalue : value.Ordered) {accepts : Bool}
    {path : List String} {es es' : Items} (h : OrderedDraft es)
    (hadd : addDotted key value accepts path es = some es') : OrderedDraft es' := by
  induction path generalizing accepts es es' with
  | nil =>
    simp only [addDotted] at hadd
    split at hadd
    · obtain rfl := Option.some.inj hadd
      exact h.set key hvalue
    · cases hadd
  | cons k path ih =>
    simp only [addDotted] at hadd
    split at hadd
    · obtain ⟨inner, hinner, rfl⟩ := Option.map_eq_some_iff.1 hadd
      exact h.set k (ih orderedDraft_nil hinner)
    · cases hadd
    · rename_i hget
      obtain ⟨inner, hinner, rfl⟩ := Option.map_eq_some_iff.1 hadd
      exact h.set k (ih (h.get? hget) hinner)
    · rename_i hget
      obtain ⟨inner, hinner, rfl⟩ := Option.map_eq_some_iff.1 hadd
      exact h.set k ⟨ih (h.get? hget).1 hinner, (h.get? hget).2⟩
    · cases hadd

/-- What a change keeps ordered it keeps so wherever a header leads. -/
theorem under_ordered {change : Items → Option Items}
    (hchange : ∀ es es', OrderedDraft es → change es = some es' → OrderedDraft es')
    {path : List String} {es es' : Items} (h : OrderedDraft es)
    (hunder : under change path es = some es') : OrderedDraft es' := by
  induction path generalizing es es' with
  | nil => exact hchange es es' h hunder
  | cons k path ih =>
    simp only [under] at hunder
    split at hunder
    · obtain ⟨inner, hinner, rfl⟩ := Option.map_eq_some_iff.1 hunder
      exact h.set k (ih orderedDraft_nil hinner)
    · rename_i hget
      obtain ⟨inner, hinner, rfl⟩ := Option.map_eq_some_iff.1 hunder
      exact h.set k (ih (h.get? hget) hinner)
    · rename_i hget
      obtain ⟨inner, hinner, rfl⟩ := Option.map_eq_some_iff.1 hunder
      exact h.set k ⟨ih (h.get? hget).1 hinner, (h.get? hget).2⟩
    · cases hunder

theorem openTable_ordered {key : String} {es es' : Items} (h : OrderedDraft es)
    (hopen : openTable key es = some es') : OrderedDraft es' := by
  simp only [openTable] at hopen
  split at hopen
  · obtain rfl := Option.some.inj hopen
    exact h.set key trivial
  · rename_i hget
    obtain rfl := Option.some.inj hopen
    have hinner : OrderedDraft _ := h.get? hget
    exact (h.erase key).set key hinner
  · cases hopen

theorem openNext_ordered {key : String} {es es' : Items} (h : OrderedDraft es)
    (hopen : openNext key es = some es') : OrderedDraft es' := by
  simp only [openNext] at hopen
  split at hopen
  · obtain rfl := Option.some.inj hopen
    exact h.set key ⟨trivial, trivial⟩
  · rename_i hget
    obtain rfl := Option.some.inj hopen
    exact h.set key ⟨trivial, h.get? hget⟩
  · cases hopen

/-- The value of a statement that has one is ordered. -/
def Statement.Ordered : Statement → Prop
  | .pair _ _ value => value.Ordered
  | _ => True

theorem Draft.add?_ordered {d d' : Draft} {s : Statement} (h : OrderedDraft d.items)
    (hs : s.Ordered) (hadd : d.add? s = some d') : OrderedDraft d'.items := by
  cases s with
  | pair path key value =>
    obtain ⟨es, hes, rfl⟩ := Option.map_eq_some_iff.1 hadd
    exact under_ordered (fun _ _ h hadd => addDotted_ordered hs h hadd) h hes
  | header path key =>
    obtain ⟨es, hes, rfl⟩ := Option.map_eq_some_iff.1 hadd
    exact under_ordered (fun _ _ => openTable_ordered) h hes
  | nextHeader path key =>
    obtain ⟨es, hes, rfl⟩ := Option.map_eq_some_iff.1 hadd
    exact under_ordered (fun _ _ => openNext_ordered) h hes

/-! ## Reading -/

/-- Every value that a reader gives is ordered. -/
def ReadsOrdered (read : Reader Value) : Prop :=
  ∀ cs v rest, read cs = some (v, rest) → v.Ordered

theorem integerOf?_ordered {negative : Bool} {n : Nat} {v : Value}
    (h : integerOf? negative n = some v) : v.Ordered := by
  simp only [integerOf?, Option.ite_none_right_eq_some, Option.some.injEq] at h
  obtain ⟨-, rfl⟩ := h
  trivial

theorem basedInteger?_ordered (base : Nat) : ReadsOrdered (basedInteger? base) := by
  intro cs v rest h
  simp only [basedInteger?, Option.bind_eq_bind, Option.bind_eq_some_iff, Option.some.injEq,
    Prod.mk.injEq] at h
  obtain ⟨_, _, _, _, w, hw, rfl, -⟩ := h
  exact integerOf?_ordered hw

theorem decimal?_ordered (negative : Bool) : ReadsOrdered (decimal? negative) := by
  have hinteger (whole tail : List Char) (v : Value) (rest : List Char)
      (h : decimal?.integer negative whole tail = some (v, rest)) : v.Ordered := by
    simp only [decimal?.integer, Option.bind_eq_bind, Option.bind_eq_some_iff, Option.some.injEq,
      Prod.mk.injEq] at h
    obtain ⟨_, _, w, hw, rfl, -⟩ := h
    exact integerOf?_ordered hw
  intro cs v rest h
  simp only [decimal?, Option.bind_eq_bind, Option.bind_eq_some_iff] at h
  obtain ⟨⟨whole, tail⟩, -, h⟩ := h
  split at h
  · split at h
    · simp only [Option.bind_eq_some_iff] at h
      obtain ⟨_, _, _, _, _, _, h⟩ := h
      split at h
      · cases h
      · obtain ⟨rfl, -⟩ := Prod.mk.inj (Option.some.inj h)
        trivial
    · exact hinteger _ _ _ _ h
  · exact hinteger _ _ _ _ h

theorem number?_ordered : ReadsOrdered number? := by
  intro cs v rest h
  unfold number? at h
  split at h
  · exact basedInteger?_ordered 16 _ _ _ h
  · exact basedInteger?_ordered 8 _ _ _ h
  · exact basedInteger?_ordered 2 _ _ _ h
  · dsimp only at h
    split at h
    · obtain ⟨rfl, -⟩ := Prod.mk.inj (Option.some.inj h)
      trivial
    · obtain ⟨rfl, -⟩ := Prod.mk.inj (Option.some.inj h)
      trivial
    · exact decimal?_ordered _ _ _ _ h

theorem scalar?_ordered : ReadsOrdered scalar? := by
  intro cs v rest h
  unfold scalar? at h
  split at h
  · obtain ⟨rfl, -⟩ := Prod.mk.inj (Option.some.inj h)
    trivial
  · obtain ⟨rfl, -⟩ := Prod.mk.inj (Option.some.inj h)
    trivial
  · split at h
    · obtain ⟨rfl, -⟩ := Prod.mk.inj (Option.some.inj h)
      trivial
    · split at h
      · obtain ⟨rfl, -⟩ := Prod.mk.inj (Option.some.inj h)
        trivial
      · exact number?_ordered _ _ _ h

theorem listItems_ordered {item : Reader Value} (hitem : ReadsOrdered item) {fuel : Nat}
    {cs rest : List Char} {vs : List Value} (h : listItems item fuel cs = some (vs, rest)) :
    ∀ v ∈ vs, v.Ordered := by
  induction fuel generalizing cs rest vs with
  | zero => cases h
  | succ fuel ih =>
    simp only [listItems, Option.bind_eq_bind, Option.bind_eq_some_iff] at h
    obtain ⟨gap, -, h⟩ := h
    split at h
    · obtain ⟨rfl, -⟩ := Prod.mk.inj (Option.some.inj h)
      simp
    · simp only [Option.bind_eq_some_iff] at h
      obtain ⟨⟨v, tail⟩, hv, gap', -, h⟩ := h
      have hordered := hitem _ _ _ hv
      split at h
      · simp only [Option.bind_eq_some_iff] at h
        obtain ⟨⟨ws, tail'⟩, hws, h⟩ := h
        obtain ⟨rfl, -⟩ := Prod.mk.inj (Option.some.inj h)
        intro w hw
        rcases List.mem_cons.1 hw with rfl | hw
        · exact hordered
        · exact ih hws w hw
      · obtain ⟨rfl, -⟩ := Prod.mk.inj (Option.some.inj h)
        intro w hw
        obtain rfl := List.mem_singleton.1 hw
        exact hordered
      · cases h

theorem inlinePairs_ordered {item : Reader Value} (hitem : ReadsOrdered item) {fuel : Nat}
    {es es' : Items} {cs rest : List Char} (hes : OrderedDraft es)
    (h : inlinePairs item fuel es cs = some (es', rest)) : OrderedDraft es' := by
  induction fuel generalizing es es' cs rest with
  | zero => cases h
  | succ fuel ih =>
    simp only [inlinePairs, Option.bind_eq_bind, Option.bind_eq_some_iff] at h
    obtain ⟨⟨path, tail⟩, -, _, -, ⟨v, tail'⟩, hv, es₁, hadd, h⟩ := h
    have hes₁ : OrderedDraft es₁ := addDotted_ordered (hitem _ _ _ hv) hes hadd
    split at h
    · exact ih hes₁ h
    · obtain ⟨rfl, -⟩ := Prod.mk.inj (Option.some.inj h)
      exact hes₁
    · cases h

theorem text_ordered {x : Option (String × List Char)} {v : Value} {rest : List Char}
    (h : x.map (fun (s, rest) => (Value.text s, rest)) = some (v, rest)) : v.Ordered := by
  obtain ⟨_, -, hx⟩ := Option.map_eq_some_iff.1 h
  obtain ⟨rfl, -⟩ := Prod.mk.inj hx
  trivial

theorem value?_ordered (n : Nat) : ReadsOrdered (value? n) := by
  induction n with
  | zero =>
    intro cs v rest h
    unfold value? at h
    split at h <;> first | contradiction | skip
    · exact text_ordered h
    · exact text_ordered h
    · exact scalar?_ordered _ _ _ h
  | succ n ih =>
    intro cs v rest h
    unfold value? at h
    split at h
    · exact text_ordered h
    · exact text_ordered h
    · rename_i heq
      cases heq
    · rename_i heq
      obtain rfl := Nat.succ.inj heq
      obtain ⟨x, hx, hv⟩ := Option.map_eq_some_iff.1 h
      obtain ⟨rfl, -⟩ := Prod.mk.inj hv
      exact ordered_list_iff.2 (listItems_ordered ih hx)
    · rename_i heq
      cases heq
    · rename_i heq
      obtain rfl := Nat.succ.inj heq
      split at h
      · obtain ⟨rfl, -⟩ := Prod.mk.inj (Option.some.inj h)
        exact ordered_table_iff.2 ⟨.nil, by simp⟩
      · obtain ⟨x, hx, h⟩ := Option.bind_eq_some_iff.1 h
        obtain ⟨w, hw, hv⟩ := Option.map_eq_some_iff.1 h
        obtain ⟨rfl, -⟩ := Prod.mk.inj hv
        exact closeTable?_ordered (inlinePairs_ordered ih orderedDraft_nil hx) hw
    · exact scalar?_ordered _ _ _ h

theorem statement?_ordered {cs rest : List Char} {s : Statement}
    (h : statement? cs = some (s, rest)) : s.Ordered := by
  unfold statement? at h
  split at h
  · obtain ⟨x, -, hs⟩ := Option.map_eq_some_iff.1 h
    obtain ⟨rfl, -⟩ := Prod.mk.inj hs
    trivial
  · obtain ⟨x, -, hs⟩ := Option.map_eq_some_iff.1 h
    obtain ⟨rfl, -⟩ := Prod.mk.inj hs
    trivial
  · simp only [Option.bind_eq_bind, Option.bind_eq_some_iff, Option.some.injEq, Prod.mk.injEq] at h
    obtain ⟨_, -, _, -, ⟨v, _⟩, hv, _, -, rfl, -⟩ := h
    exact value?_ordered nestingLimit _ _ _ hv

theorem statements_ordered {fuel : Nat} {d d' : Draft} {cs : List Char} (hd : OrderedDraft d.items)
    (h : statements fuel d cs = .ok d') : OrderedDraft d'.items := by
  induction fuel generalizing d cs with
  | zero => cases h
  | succ fuel ih =>
    rw [statements] at h
    split at h
    · obtain rfl := Except.ok.inj h
      exact hd
    · split at h
      · exact ih hd h
      · cases h
    · exact ih hd h
    · split at h
      · exact ih hd h
      · cases h
    · split at h
      · rename_i hnext
        obtain ⟨⟨s, tail⟩, hs, hadd⟩ := Option.bind_eq_some_iff.1 hnext
        obtain ⟨d₁, hd₁, hx⟩ := Option.map_eq_some_iff.1 hadd
        obtain ⟨rfl, rfl⟩ := Prod.mk.inj hx
        exact ih (Draft.add?_ordered hd (statement?_ordered hs) hd₁) h
      · cases h

/-- What is read is ordered. -/
theorem read_ordered {text : String} {document : Table} (h : read text = .ok document) :
    (Value.table document).Ordered := by
  simp only [read] at h
  split at h
  · rename_i d hd
    split at h
    · rename_i table hclose
      obtain rfl := Except.ok.inj h
      have hempty : OrderedDraft Draft.empty.items := orderedDraft_nil
      exact closeEntries?_ordered (statements_ordered hempty hd) hclose
    · cases h
  · cases h

end Document

/-! ## Loading -/

namespace Config

open Document

theorem defaultTable_ordered : (Value.table defaultTable).Ordered := by
  simp only [defaultTable, defaultListen, defaultRouter, Value.Ordered, OrderedEntries, and_true]
  decide

theorem respellRouter_ordered {router : Table} (h : (Value.table router).Ordered) :
    (Value.table (respellRouter router)).Ordered := by
  unfold respellRouter
  split
  · exact h
  · split
    · rename_i hget
      exact ordered_insert (ordered_erase h "username") (h.child? hget)
    · exact h

theorem respell_ordered {document : Table} (h : (Value.table document).Ordered) :
    (Value.table (respell document)).Ordered := by
  unfold respell
  split
  · rename_i hget
    exact ordered_insert h (respellRouter_ordered (h.child? hget))
  · exact h

/-- The configuration that a text denotes is ordered. -/
theorem parse_ordered {text : String} {c : Config} (h : parse text = .ok c) : c.root.Ordered := by
  simp only [parse] at h
  split at h
  · rename_i document hread
    obtain rfl := Except.ok.inj h
    exact merge_ordered defaultTable_ordered _ (respell_ordered (read_ordered hread))
  · cases h

end Config

end Egress
