import Egress.Proofs.Directory.Distinct

/-!
# Searching a tree

A search takes the children of a map in the order in which the map holds them, and a map may hold
them in any (`Node.Reordered`). Whatever the order, the path found for an endpoint leads to a list
with the endpoint, and none is found only if no path leads to such a list (`find?_reordered`); so an
endpoint that is in one list only is found there in every order.
-/

set_option autoImplicit false

namespace Egress.Node

variable {target : String} {path : List String}

/-! ## Where paths lead -/

@[simp] theorem not_leadsTo_undefined : ¬ undefined.LeadsTo path target := by
  rintro ⟨es, hw, -⟩
  cases path <;> cases hw

@[simp] theorem leadsTo_list {es : List String} :
    (list es).LeadsTo path target ↔ path = [] ∧ target ∈ es := by
  constructor
  · rintro ⟨es', hw, ht⟩
    cases path with
    | nil =>
      obtain rfl := Node.list.inj (Option.some.inj hw)
      exact ⟨rfl, ht⟩
    | cons k path => cases hw
  · rintro ⟨rfl, ht⟩
    exact ⟨es, walk_nil _, ht⟩

theorem leadsTo_map {cs : List (String × Node)} :
    (map cs).LeadsTo path target ↔
      ∃ k n rest, path = k :: rest ∧ Keyed.get? k cs = some n ∧ n.LeadsTo rest target := by
  constructor
  · rintro ⟨es, hw, ht⟩
    cases path with
    | nil => cases hw
    | cons k rest =>
      obtain ⟨n, hn, hw⟩ := Option.bind_eq_some_iff.1 hw
      exact ⟨k, n, rest, rfl, hn, es, hw, ht⟩
  · rintro ⟨k, n, rest, rfl, hn, es, hw, ht⟩
    exact ⟨es, by rw [walk_cons, child?, hn]; exact hw, ht⟩

/-! ## Orders of the children -/

/-- The same tree with the children of each of its maps in some order. -/
inductive Reordered : Node → Node → Prop
  | undefined : Reordered undefined undefined
  | list (endpoints : List String) : Reordered (list endpoints) (list endpoints)
  | map {cs ds : List (String × Node)} (hkeys : (Keyed.keys cs).Perm (Keyed.keys ds))
      (hbelow : ∀ k n m, Keyed.get? k cs = some n → Keyed.get? k ds = some m → Reordered n m) :
      Reordered (map cs) (map ds)

theorem Reordered.symm {n m : Node} (h : n.Reordered m) : m.Reordered n := by
  induction h with
  | undefined => exact .undefined
  | list es => exact .list es
  | map hkeys _ ih => exact .map hkeys.symm fun k m n hm hn => ih k n m hn hm

/-- What is under a key in one order is under it in the other. -/
theorem exists_get?_of_perm {cs ds : List (String × Node)}
    (hkeys : (Keyed.keys cs).Perm (Keyed.keys ds)) {k : String} {n : Node}
    (h : Keyed.get? k cs = some n) : ∃ m, Keyed.get? k ds = some m := by
  have hk : k ∈ Keyed.keys cs := Keyed.isSome_get?_iff.1 (by rw [h]; rfl)
  exact Option.isSome_iff_exists.1 (Keyed.isSome_get?_iff.2 (hkeys.mem_iff.1 hk))

theorem Reordered.distinct {n m : Node} (h : n.Reordered m) (hd : n.Distinct) : m.Distinct := by
  induction h with
  | undefined => exact hd
  | list es => exact hd
  | @map cs ds hkeys _ ih =>
    obtain ⟨hnodup, hbelow⟩ := distinct_map_iff.1 hd
    have hnodup' : (Keyed.keys ds).Nodup := hkeys.nodup_iff.1 hnodup
    refine distinct_map_iff.2 ⟨hnodup', fun e he => ?_⟩
    have hm : Keyed.get? e.1 ds = some e.2 := Keyed.get?_of_mem hnodup' he
    obtain ⟨n, hn⟩ := exists_get?_of_perm hkeys.symm hm
    exact ih e.1 n e.2 hn hm (hbelow _ (Keyed.mem_of_get? hn))

/-- A path that leads to an endpoint leads to it in every order. -/
theorem Reordered.leadsTo {n m : Node} (h : n.Reordered m) (hl : n.LeadsTo path target) :
    m.LeadsTo path target := by
  induction h generalizing path with
  | undefined => exact hl
  | list es => exact hl
  | map hkeys _ ih =>
    obtain ⟨k, n, rest, rfl, hn, hl⟩ := leadsTo_map.1 hl
    obtain ⟨m, hm⟩ := exists_get?_of_perm hkeys hn
    exact leadsTo_map.2 ⟨k, m, rest, rfl, hm, ih k n m hn hm hl⟩

/-! ## Completeness -/

theorem searchChildren?_isSome_of_mem {cs : List (String × Node)} {k : String} {n : Node}
    (hm : (k, n) ∈ cs) (h : (n.search? target).isSome = true) :
    (searchChildren? target cs).isSome = true := by
  induction cs with
  | nil => cases hm
  | cons e cs ih =>
    rw [searchChildren?]
    split
    · rfl
    · -- nothing below the first child, so the one with the endpoint comes later
      rename_i hnone
      rcases List.mem_cons.1 hm with rfl | hm
      · rw [hnone] at h
        cases h
      · exact ih hm

theorem search?_isSome_of_leadsTo {n : Node} (h : n.LeadsTo path target) :
    (n.search? target).isSome = true := by
  induction path generalizing n with
  | nil =>
    cases n with
    | undefined => exact absurd h not_leadsTo_undefined
    | list es =>
      rw [search?, if_pos (leadsTo_list.1 h).2]
      rfl
    | map cs =>
      obtain ⟨_, _, _, hp, -⟩ := leadsTo_map.1 h
      cases hp
  | cons k path ih =>
    cases n with
    | undefined => exact absurd h not_leadsTo_undefined
    | list es => cases (leadsTo_list.1 h).1
    | map cs =>
      obtain ⟨_, n, _, hp, hn, hl⟩ := leadsTo_map.1 h
      obtain ⟨rfl, rfl⟩ := List.cons.inj hp
      exact searchChildren?_isSome_of_mem (Keyed.mem_of_get? hn) (ih hl)

/-- An endpoint that some path leads to is found, at the end of that path or of another. -/
theorem find?_isSome_of_leadsTo {n : Node} (h : n.LeadsTo path target) :
    (n.find? target).isSome = true := by
  rw [find?, Option.isSome_map, search?_isSome_of_leadsTo h]

/-! ## Searching in any order -/

/-- In every order of the children, the path found leads to a list with the endpoint; if none is
found, no path at all does; and if a single path does, that is the one found. -/
theorem find?_reordered {n m : Node} (hd : n.Distinct) (h : n.Reordered m) (target : String) :
    (∀ path, m.find? target = some path → n.LeadsTo path target) ∧
    (m.find? target = none → ∀ path, ¬ n.LeadsTo path target) ∧
    ∀ path, n.LeadsTo path target → (∀ other, n.LeadsTo other target → other = path) →
      m.find? target = some path := by
  have hsound (path : List String) (hf : m.find? target = some path) : n.LeadsTo path target :=
    h.symm.leadsTo (find?_walk target m (h.distinct hd) hf)
  have hcomplete (path : List String) (hl : n.LeadsTo path target) :
      (m.find? target).isSome = true := find?_isSome_of_leadsTo (h.leadsTo hl)
  refine ⟨hsound, fun hnone path hl => ?_, fun path hl hunique => ?_⟩
  · have := hcomplete path hl
    rw [hnone] at this
    cases this
  · obtain ⟨found, hf⟩ := Option.isSome_iff_exists.1 (hcomplete path hl)
    rw [hf, hunique found (hsound found hf)]

/-- Two levels. One endpoint is in the last list only, behind an empty list, a list without it and a
node that was never written. -/
def sampleTree : Node :=
  .map [("eu", .list ["b"]), ("none", .undefined),
    ("us", .map [("Reno", .list []), ("Boise", .list ["a", "b"])])]

/-- The same tree with the children of its maps the other way round. -/
def sampleTurned : Node :=
  .map [("us", .map [("Boise", .list ["a", "b"]), ("Reno", .list [])]), ("none", .undefined),
    ("eu", .list ["b"])]

theorem find?_reordered_sample :
    sampleTree.Distinct ∧ sampleTree.Reordered sampleTurned ∧
      sampleTurned.find? "a" = some ["us", "Boise"] := by
  have hd : sampleTree.Distinct := by
    simp [sampleTree, Distinct, DistinctBelow, Keyed.keys]
  have hus : (map [("Reno", list []), ("Boise", list ["a", "b"])]).Reordered
      (map [("Boise", list ["a", "b"]), ("Reno", list [])]) := by
    refine .map (by decide) fun k n m hn hm => ?_
    simp only [Keyed.get?] at hn hm
    grind [Reordered.list]
  have h : sampleTree.Reordered sampleTurned := by
    refine .map (by decide) fun k n m hn hm => ?_
    simp only [Keyed.get?] at hn hm
    grind [Reordered.list, Reordered.undefined]
  have hl : sampleTree.LeadsTo ["us", "Boise"] "a" :=
    leadsTo_map.2 ⟨_, _, _, rfl, rfl, leadsTo_map.2 ⟨_, _, _, rfl, rfl, by simp⟩⟩
  have hunique (other : List String) (ho : sampleTree.LeadsTo other "a") :
      other = ["us", "Boise"] := by
    obtain ⟨k, n, rest, rfl, hn, ho⟩ := leadsTo_map.1 ho
    simp only [Keyed.get?] at hn
    grind [leadsTo_map, leadsTo_list, not_leadsTo_undefined, Keyed.get?]
  exact ⟨hd, h, (find?_reordered hd h "a").2.2 _ hl hunique⟩

end Egress.Node
