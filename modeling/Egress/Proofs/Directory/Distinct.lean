import Egress.Proofs.Directory.Build
import Egress.Registry

/-!
# Trees whose maps have each key once

`Node.Distinct`: every map in the tree has each of its keys once, as a finite map has. In such a
tree the path found for an endpoint leads to a list with the endpoint (`find?_walk`). The writes on
nodes keep it, so the trees that are built have it (`build_distinct`), and with them those of a
registry, at first and after every refresh (`bootstrap_distinct`, `refresh_distinct`).
-/

set_option autoImplicit false

namespace Egress

namespace Node

mutual

/-- Every map in the tree has each of its keys once. -/
def Distinct : Node → Prop
  | undefined => True
  | list _ => True
  | map children => (Keyed.keys children).Nodup ∧ DistinctBelow children

/-- The trees below some children are so. -/
def DistinctBelow : List (String × Node) → Prop
  | [] => True
  | (_, n) :: rest => Distinct n ∧ DistinctBelow rest

end

theorem distinctBelow_iff {cs : List (String × Node)} :
    DistinctBelow cs ↔ ∀ e ∈ cs, e.2.Distinct := by
  induction cs with
  | nil => simp [DistinctBelow]
  | cons e cs ih =>
    obtain ⟨k, n⟩ := e
    simp [DistinctBelow, ih]

theorem distinct_map_iff {cs : List (String × Node)} :
    (map cs).Distinct ↔ (Keyed.keys cs).Nodup ∧ ∀ e ∈ cs, e.2.Distinct := by
  rw [Distinct, distinctBelow_iff]

theorem Distinct.child? {n child : Node} {k : String} (hd : n.Distinct)
    (h : n.child? k = some child) : child.Distinct := by
  cases n with
  | map cs => exact (distinct_map_iff.1 hd).2 _ (Keyed.mem_of_get? h)
  | _ => cases h

theorem Distinct.walk {n m : Node} {path : List String} (hd : n.Distinct)
    (h : n.walk path = some m) : m.Distinct := by
  induction path generalizing n with
  | nil =>
    obtain rfl : n = m := Option.some.inj ((walk_nil n).symm.trans h)
    exact hd
  | cons k path ih =>
    rw [walk_cons] at h
    obtain ⟨child, hchild, h⟩ := Option.bind_eq_some_iff.1 h
    exact ih (hd.child? hchild) h

/-! ## Searching -/

/-- A path leads to a list with an endpoint. -/
def LeadsTo (n : Node) (path : List String) (target : String) : Prop :=
  ∃ endpoints, n.walk path = some (.list endpoints) ∧ target ∈ endpoints

theorem LeadsTo.cons {cs : List (String × Node)} {k : String} {n : Node} {path : List String}
    {target : String} (hd : (Keyed.keys cs).Nodup) (hm : (k, n) ∈ cs)
    (h : n.LeadsTo path target) : (map cs).LeadsTo (k :: path) target := by
  obtain ⟨es, hw, ht⟩ := h
  refine ⟨es, ?_, ht⟩
  rw [walk_cons, child?, Keyed.get?_of_mem hd hm]
  exact hw

mutual

/-- The keys collected for an endpoint lead to a list with it, the one collected last first. -/
theorem search?_walk (target : String) :
    ∀ (n : Node) {keys : List String}, n.Distinct → n.search? target = some keys →
      n.LeadsTo keys.reverse target
  | .undefined, _, _, h => by simp [search?] at h
  | .list es, keys, _, h => by
    simp only [search?] at h
    split at h
    · rename_i ht
      obtain rfl := Option.some.inj h
      exact ⟨es, walk_nil _, ht⟩
    · cases h
  | .map cs, keys, hd, h => by
    rw [Distinct] at hd
    rw [search?] at h
    obtain ⟨k, n, below, rfl, hm, hl⟩ := searchChildren?_walk target cs hd.2 h
    rw [List.reverse_concat]
    exact hl.cons hd.1 hm

theorem searchChildren?_walk (target : String) :
    ∀ (cs : List (String × Node)) {keys : List String}, DistinctBelow cs →
      searchChildren? target cs = some keys →
      ∃ k n below, keys = below ++ [k] ∧ (k, n) ∈ cs ∧ n.LeadsTo below.reverse target
  | [], _, _, h => by simp [searchChildren?] at h
  | (k, n) :: cs, keys, hd, h => by
    rw [DistinctBelow] at hd
    rw [searchChildren?] at h
    split at h
    · rename_i below hn
      obtain rfl := Option.some.inj h
      exact ⟨k, n, below, rfl, List.mem_cons_self, search?_walk target n hd.1 hn⟩
    · obtain ⟨k', n', below, rfl, hm, hl⟩ := searchChildren?_walk target cs hd.2 h
      exact ⟨k', n', below, rfl, List.mem_cons_of_mem _ hm, hl⟩

end

/-- The path found for an endpoint leads to a list with it. -/
theorem find?_walk (target : String) (n : Node) {path : List String} (hd : n.Distinct)
    (h : n.find? target = some path) : n.LeadsTo path target := by
  obtain ⟨keys, hkeys, rfl⟩ := Option.map_eq_some_iff.1 h
  exact search?_walk target n hd hkeys

/-! ## Writing -/

theorem distinct_of_setList {es : List String} {n n' : Node} (h : n.setList es = .ok n') :
    n'.Distinct := by
  cases n <;> simp only [setList, Except.ok.injEq, reduceCtorEq] at h <;> subst h <;>
    simp [Distinct]

theorem distinct_map_set {cs : List (String × Node)} {k : String} {child : Node}
    (h : (map cs).Distinct) (hc : child.Distinct) : (map (Keyed.set k child cs)).Distinct := by
  obtain ⟨hd, hb⟩ := distinct_map_iff.1 h
  refine distinct_map_iff.2 ⟨Keyed.nodup_set child hd, fun e he => ?_⟩
  rcases Keyed.mem_set he with rfl | he
  · exact hc
  · exact hb e he

theorem distinct_of_setChild {n child n' : Node} {k : String} (hn : n.Distinct)
    (hc : child.Distinct) (h : n.setChild k child = .ok n') : n'.Distinct := by
  cases n with
  | undefined =>
    obtain rfl := Except.ok.inj h
    exact distinct_map_iff.2 ⟨by simp [Keyed.keys], by simpa using hc⟩
  | list es => cases h
  | map cs =>
    obtain rfl := Except.ok.inj h
    exact distinct_map_set hn hc

theorem distinct_of_update? {ε : Type} {change : Node → Except ε Node}
    (hchange : ∀ n n', n.Distinct → change n = .ok n' → n'.Distinct) {path : List String}
    {n n' : Node} (hn : n.Distinct) (h : n.update? change path = some (.ok n')) : n'.Distinct := by
  induction path generalizing n n' with
  | nil => exact hchange n n' hn (Option.some.inj (by simpa [update?] using h))
  | cons k path ih =>
    cases n with
    | undefined => simp [update?] at h
    | list es => simp [update?] at h
    | map cs =>
      simp only [update?, Option.bind_eq_some_iff, Option.map_eq_some_iff] at h
      obtain ⟨child, hget, r, hr, hmap⟩ := h
      cases r with
      | error e => simp [Except.map] at hmap
      | ok child' =>
        obtain rfl := Except.ok.inj hmap
        exact distinct_map_set hn (ih (hn.child? hget) hr)

end Node

/-! ## Building -/

namespace Config

theorem nodeAt_distinct {c : Config} {levels path : List String} {n : Node}
    {lists : List (List String)} (h : c.nodeAt levels path = .ok (n, lists)) : n.Distinct := by
  induction levels generalizing path n lists with
  | nil =>
    simp only [nodeAt] at h
    split at h
    · cases h
    · cases h
    · split at h
      · rename_i hs
        obtain ⟨rfl, -⟩ := Prod.mk.inj (Except.ok.inj h)
        exact Node.distinct_of_setList hs
      · cases h
  | cons level deeper ih =>
    simp only [nodeAt] at h
    split at h
    · cases h
    · refine foldlM_keeps (P := fun x => x.1.Distinct) ?_ (fun key _ x x' hx hstep => ?_) h
      · exact Node.distinct_map_iff.2 ⟨List.nodup_nil, by simp⟩
      · obtain ⟨⟨child, below⟩, hchild, hstep⟩ := bind_eq_ok.1 hstep
        simp only at hstep
        split at hstep
        · rename_i node hset
          obtain rfl := Except.ok.inj hstep
          exact Node.distinct_of_setChild hx (ih hchild) hset
        · cases hstep
    · cases h

theorem plan_distinct {c : Config} {vendor : String} {p : Plan} (h : c.plan vendor = .ok p) :
    p.root.Distinct := by
  obtain ⟨x, hx, rfl⟩ := plan_ok h
  exact nodeAt_distinct hx

end Config

theorem Resolver.resolveLists_distinct {r : Resolver} {vendor : String}
    {paths : List (List String)} {root root' : Node} {known known' : Resolved}
    (hd : root.Distinct)
    (h : (r.resolveLists vendor paths root known).value = .ok (root', known')) :
    root'.Distinct := by
  induction paths generalizing root known with
  | nil =>
    obtain ⟨rfl, -⟩ := Prod.mk.inj (Except.ok.inj h)
    exact hd
  | cons path paths ih =>
    simp only [resolveLists] at h
    split at h
    · cases h
    · simp only [Report.value_bind] at h
      split at h
      · rename_i hu
        exact ih (Node.distinct_of_update? (fun _ _ _ => Node.distinct_of_setList) hd hu) h
      · cases h
      · cases h

/-- The tree of every directory that is built has each key of a map once. -/
theorem Config.build_distinct {c : Config} {r : Resolver} {vendor : String} {d : Directory}
    (h : (c.build r vendor).value = .ok d) : d.root.Distinct := by
  obtain ⟨p, x, hp, hx, rfl⟩ := build_ok h
  rw [Plan.settle] at hx
  split at hx
  · exact Resolver.resolveLists_distinct (plan_distinct hp) hx
  · obtain rfl := Except.ok.inj hx
    exact plan_distinct hp

/-! ## Registries -/

/-- The trees of all vendors have each key of a map once. -/
def Registry.Distinct (r : Registry) : Prop :=
  ∀ e ∈ r.channels, e.2.value.root.Distinct

theorem Registry.Distinct.get? {r : Registry} (h : r.Distinct) {vendor : String} {d : Directory}
    (hd : r.get? vendor = some d) : d.root.Distinct := by
  obtain ⟨channel, hc, rfl⟩ := Option.map_eq_some_iff.1 hd
  exact h _ (Keyed.mem_of_get? hc)

theorem Config.buildAll_distinct {c : Config} {resolver : Resolver} {vendors : List String}
    {channels channels' : List (String × Channel Directory)}
    (hd : Registry.Distinct ⟨channels⟩)
    (h : (c.buildAll resolver vendors channels).value = .ok channels') :
    Registry.Distinct ⟨channels'⟩ := by
  induction vendors generalizing channels with
  | nil =>
    obtain rfl := Except.ok.inj h
    exact hd
  | cons vendor vendors ih =>
    simp only [buildAll] at h
    split at h
    · exact ih hd h
    · simp only [Report.value_bind] at h
      split at h
      · cases h
      · rename_i d hb
        refine ih (fun e he => ?_) h
        rcases List.mem_append.1 he with he | he
        · exact hd e he
        · obtain rfl := List.mem_singleton.1 he
          exact build_distinct hb

/-- The trees of a registry just built have each key of a map once. -/
theorem Config.bootstrap_distinct {c : Config} {resolver : Resolver} {vendors : List String}
    {r : Registry} (h : (c.bootstrap resolver vendors).value = .ok r) : r.Distinct := by
  simp only [bootstrap, Report.value_bind] at h
  split at h
  · cases h
  · rename_i hb
    obtain rfl := Except.ok.inj h
    exact buildAll_distinct (fun e he => by cases he) hb

theorem Registry.refreshChannels_distinct {c : Config} {resolver : Resolver}
    {channels : List (String × Channel Directory)} (hd : Registry.Distinct ⟨channels⟩) :
    Registry.Distinct ⟨(refreshChannels c resolver channels).value.1⟩ := by
  induction channels with
  | nil => exact hd
  | cons e rest ih =>
    obtain ⟨vendor, channel⟩ := e
    have hrest := ih fun e he => hd e (List.mem_cons_of_mem _ he)
    intro e he
    simp only [refreshChannels, Report.value_bind] at he
    split at he
    · rename_i d hb
      rcases List.mem_cons.1 he with rfl | he
      · exact Config.build_distinct hb
      · exact hrest e he
    · rcases List.mem_cons.1 he with rfl | he
      · exact hd _ List.mem_cons_self
      · exact hrest e he

/-- A refresh keeps it so. -/
theorem Registry.refresh_distinct {r : Registry} (hd : r.Distinct) (c : Config)
    (resolver : Resolver) : (r.refresh c resolver).value.1.Distinct :=
  refreshChannels_distinct hd

end Egress
