import Egress.Proofs.Directory.Resolution

/-!
# Leaves with and without resolution

The leaves of a directory that is built lie in ascending order of their paths, and each has the
servers that are configured at its path (`Config.Leaves`). Building with resolution is done in two
steps, first the tree and then leaf by leaf the addresses. The outcome is that of one step
(`Config.build_resolves`): the tree is the one without resolution with every leaf replaced by the
addresses of its servers, the map of addresses is that of all servers in the order of the leaves,
and in the same order the name service is asked for those that are no addresses.
-/

set_option autoImplicit false

namespace Egress

open Document

/-- Adding what is new to a list without repetitions erases the repetitions of both together. -/
theorem addNew_eraseDups (known as : List String) :
    addNew known.eraseDups as = (known ++ as).eraseDups := by
  induction as generalizing known with
  | nil => rw [List.append_nil]; rfl
  | cons a as ih =>
    have hstep : (if a ∈ known.eraseDups then known.eraseDups else known.eraseDups ++ [a]) =
        (known ++ [a]).eraseDups := by
      rw [List.eraseDups_append]
      by_cases ha : a ∈ known <;> simp [List.removeAll, List.eraseDups_cons, ha]
    rw [addNew_cons, hstep, ih, List.append_assoc, List.singleton_append]

namespace Resolver

theorem addressList_eq (r : Resolver) (identifiers : List String) :
    r.addressList identifiers = (identifiers.flatMap r.addresses).eraseDups :=
  addNew_eraseDups [] _

theorem value_resolveAll (r : Resolver) (identifiers : List String) :
    (r.resolveAll identifiers).value = r.noted [] identifiers := by
  rw [resolveAll, Report.value_foldlM]
  rfl

end Resolver

/-! ## The leaves of a tree -/

namespace Node

theorem kind_mapLists (f : List String → List String) (n : Node) :
    (n.mapLists f).kind = n.kind := by
  cases n <;> rfl

theorem listPathsBelow_eq (cs : List (String × Node)) :
    listPathsBelow cs = cs.flatMap fun e => e.2.listPaths.map (e.1 :: ·) := by
  induction cs with
  | nil => rfl
  | cons e cs ih => rw [listPathsBelow, ih, List.flatMap_cons]

theorem walk_map_of_mem {cs : List (String × Node)} (hd : (Keyed.keys cs).Nodup)
    {e : String × Node} (he : e ∈ cs) (p : List String) : (map cs).walk (e.1 :: p) = e.2.walk p := by
  rw [walk_cons, child?, Keyed.get?_of_mem hd he, Option.bind_some]

/-- The paths of the lists are the paths that lead to lists. -/
theorem mem_listPaths_iff {n : Node} (hd : n.Distinct) {p : List String} :
    p ∈ n.listPaths ↔ ∃ es, n.walk p = some (.list es) := by
  induction n using induction generalizing p with
  | undefined => cases p <;> simp [listPaths, walk_cons, child?]
  | list es => cases p <;> simp [listPaths, walk_cons, child?]
  | map cs ih =>
    obtain ⟨hnodup, hbelow⟩ := distinct_map_iff.1 hd
    rw [listPaths, listPathsBelow_eq, List.mem_flatMap]
    constructor
    · rintro ⟨e, he, hp⟩
      obtain ⟨q, hq, rfl⟩ := List.mem_map.1 hp
      rw [walk_map_of_mem hnodup he]
      exact (ih e he (hbelow e he)).1 hq
    · rintro ⟨es, hw⟩
      cases p with
      | nil => simp at hw
      | cons k q =>
        obtain ⟨child, hget, hq⟩ := Option.bind_eq_some_iff.1 hw
        have he := Keyed.mem_of_get? hget
        exact ⟨(k, child), he, List.mem_map_of_mem ((ih _ he (hbelow _ he)).2 ⟨es, hq⟩)⟩

/-- What the lists hold is read off list by list. -/
theorem held_eq {n : Node} (hd : n.Distinct) {read : List String → List String}
    (hread : ∀ p es, n.walk p = some (.list es) → read p = es) :
    n.held = n.listPaths.flatMap read := by
  induction n using induction generalizing read with
  | undefined => rfl
  | list es =>
    have hes : read [] = es := hread [] es (walk_nil _)
    simp [held, listPaths, hes]
  | map cs ih =>
    obtain ⟨hnodup, hbelow⟩ := distinct_map_iff.1 hd
    have hchild : ∀ e ∈ cs, e.2.held = (e.2.listPaths.map (e.1 :: ·)).flatMap read := by
      intro e he
      rw [List.flatMap_map]
      refine ih e he (hbelow e he) fun p es hp => hread (e.1 :: p) es ?_
      rw [walk_map_of_mem hnodup he, hp]
    rw [held, heldBelow_eq, listPaths, listPathsBelow_eq, List.flatMap_assoc]
    exact congrArg List.flatten (List.map_congr_left hchild)

end Node

namespace Config

variable {c c' : Config} {r : Resolver} {vendor : String}

/-- The paths noted with the children of a map are in order when the keys are. -/
theorem foldlM_addChild_ascending
    {build : String → Except DirectoryError (Node × List (List String))}
    (hbuild : ∀ k y, build k = .ok y → y.2.Pairwise (· < ·)) {keys : List String}
    (hkeys : keys.Pairwise (· < ·)) {cs : List (String × Node)} {lists : List (List String)}
    (hlists : lists.Pairwise (· < ·)) (hnew : ∀ p ∈ lists, ∀ k ∈ keys, ∀ q, p < k :: q)
    {x : Node × List (List String)}
    (h : keys.foldlM (addChild build) (.map cs, lists) = .ok x) : x.2.Pairwise (· < ·) := by
  induction keys generalizing cs lists with
  | nil =>
    obtain rfl := Except.ok.inj h
    exact hlists
  | cons key keys ih =>
    obtain ⟨hkey, hkeys⟩ := List.pairwise_cons.1 hkeys
    rw [List.foldlM_cons, bind_eq_ok] at h
    obtain ⟨x', hx', h⟩ := h
    rw [addChild_map, map_eq_ok] at hx'
    obtain ⟨y, hy, rfl⟩ := hx'
    have hbelow : (y.2.map (key :: ·)).Pairwise (· < ·) := by
      rw [List.pairwise_map]
      exact (hbuild key y hy).imp fun hpq => List.cons_lt_cons_iff.2 (.inr ⟨rfl, hpq⟩)
    refine ih hkeys (List.pairwise_append.2 ⟨hlists, hbelow, ?_⟩) (fun p hp k hk q => ?_) h
    · intro p hp p' hp'
      obtain ⟨q, -, rfl⟩ := List.mem_map.1 hp'
      exact hnew p hp key List.mem_cons_self q
    · rcases List.mem_append.1 hp with hp | hp
      · exact hnew p hp k (List.mem_cons_of_mem key hk) q
      · -- a path through the key just added comes before all through later keys
        obtain ⟨q', -, rfl⟩ := List.mem_map.1 hp
        exact List.cons_lt_cons_iff.2 (.inl (hkey k hk))

theorem nodeAt_ascending (ho : c.root.Ordered) {levels path : List String}
    {x : Node × List (List String)} (h : c.nodeAt levels path = .ok x) : x.2.Pairwise (· < ·) := by
  induction levels generalizing path x with
  | nil =>
    rw [nodeAt_nil] at h
    split at h
    · cases h
    · cases h
    · obtain rfl := Except.ok.inj h
      exact List.pairwise_singleton _ _
  | cons level deeper ih =>
    rw [nodeAt_cons] at h
    split at h
    · cases h
    · exact foldlM_addChild_ascending (fun _ _ => ih) (keysAt_ascending ho) .nil nofun h
    · cases h

/-- The leaves of a vendor's tree: the paths of its lists in ascending order, with the servers that
are configured there. -/
structure Leaves (c : Config) (vendor : String) (root : Node) (leaves : List (List String)) :
    Prop where
  ascending : leaves.Pairwise (· < ·)
  mem_iff : ∀ p, p ∈ leaves ↔ ∃ ids, root.walk p = some (.list ids)
  walk_eq : ∀ p ∈ leaves, root.walk p = some (.list (c.stringsAt ([vendor, "servers"] ++ p)))

/-- The servers that are configured at some leaves, leaf by leaf. -/
def serversOf (c : Config) (vendor : String) (leaves : List (List String)) : List String :=
  leaves.flatMap fun p => c.stringsAt ([vendor, "servers"] ++ p)

theorem nodeAt_leaves (ho : c.root.Ordered) {levels : List String} {x : Node × List (List String)}
    (h : c.nodeAt levels [vendor, "servers"] = .ok x) :
    c.Leaves vendor x.1 x.2 ∧ x.1.held = c.serversOf vendor x.2 := by
  have hm := nodeAt_mirrors h
  have hd : x.1.Distinct := nodeAt_distinct h
  have hpaths := nodeAt_listPaths ho h
  have hwalk : ∀ p ids, x.1.walk p = some (.list ids) →
      c.stringsAt ([vendor, "servers"] ++ p) = ids := by
    intro p ids hp
    exact (Node.list.inj (hm.list p _ hp (hm.length_of_list hp))).symm
  refine ⟨⟨nodeAt_ascending ho h, fun p => ?_, fun p hp => ?_⟩, ?_⟩
  · rw [hpaths, Node.mem_listPaths_iff hd]
  · rw [hpaths, Node.mem_listPaths_iff hd] at hp
    obtain ⟨ids, hids⟩ := hp
    rw [hids, hwalk p ids hids]
  · rw [hpaths, serversOf]
    exact Node.held_eq hd hwalk

/-! ## Building -/

/-- The vendor has the same levels and servers in two configurations. -/
structure SameServers (c c' : Config) (vendor : String) : Prop where
  levels : c'.root.at? [vendor, "levels"] = c.root.at? [vendor, "levels"]
  servers : c'.root.at? [vendor, "servers"] = c.root.at? [vendor, "servers"]

theorem SameServers.symm (h : c.SameServers c' vendor) : c'.SameServers c vendor :=
  ⟨h.levels.symm, h.servers.symm⟩

/-- Then its plan is the same, apart from whether it asks for resolution. -/
theorem SameServers.plan_ok (h : c.SameServers c' vendor) (hdot : '.' ∉ vendor.toList) {p : Plan}
    (hp : c.plan vendor = .ok p) :
    c'.plan vendor = .ok { p with resolve := c'.flag (vendor ++ ".resolve_servers") } := by
  have hlevels : c'.strings (vendor ++ ".levels") = c.strings (vendor ++ ".levels") := by
    rw [strings, strings, get?_levels, get?_levels, dottedKeys_of_not_mem hdot]
    exact congrArg (fun v => (v.map Value.texts).getD []) h.levels
  have hnode (levels : List String) :
      c'.nodeAt levels [vendor, "servers"] = c.nodeAt levels [vendor, "servers"] :=
    nodeAt_congr fun p => by rw [Value.at?_append, Value.at?_append, h.servers]
  obtain ⟨hservers, hdepth, x, hx, rfl⟩ := (plan_ok_iff hdot).1 hp
  refine (plan_ok_iff hdot).2 ⟨?_, ?_, x, ?_, ?_⟩
  · rw [h.servers, hservers]
  · rw [hlevels]
    exact hdepth
  · rw [hlevels, hnode, hx]
  · rw [hlevels]

/-- With resolution a directory can be built if and only if it can be built without. The trees have
the same paths and kinds of nodes. Leaf by leaf, in ascending order of their paths, the lists hold
the addresses of the configured servers, each address once where it comes first; the map of
addresses is that of all these servers, in which just those with an address are; and the name
service is asked for those that are no addresses, as often as they are configured. Without
resolution nothing is asked for, and there is no map. -/
theorem build_resolves (ho : c.root.Ordered) (hdot : '.' ∉ vendor.toList)
    (hsame : c.SameServers c' vendor) (hon : c.flag (vendor ++ ".resolve_servers") = true)
    (hoff : c'.flag (vendor ++ ".resolve_servers") = false) :
    ((∃ d, (c.build r vendor).value = .ok d) ↔ ∃ d', (c'.build r vendor).value = .ok d') ∧
    ∀ d d', (c.build r vendor).value = .ok d → (c'.build r vendor).value = .ok d' →
      (∀ p, (d.root.walk p).map Node.kind = (d'.root.walk p).map Node.kind) ∧
      (∃ leaves, c.Leaves vendor d'.root leaves ∧
        (∀ p ∈ leaves, d.root.walk p = some (.list
          ((c.stringsAt ([vendor, "servers"] ++ p)).flatMap r.addresses).eraseDups)) ∧
        d.resolved = (r.resolveAll (c.serversOf vendor leaves)).value ∧
        (∀ x as, (x, as) ∈ d.resolved ↔
          x ∈ c.serversOf vendor leaves ∧ as = r.addresses x ∧ as ≠ []) ∧
        (c.build r vendor).asked =
          (c.serversOf vendor leaves).filter fun x => !Address.isLiteral x) ∧
      (c'.build r vendor).asked = [] ∧ d'.resolved = [] := by
  refine ⟨⟨?_, ?_⟩, fun d d' hb hb' => ?_⟩
  · rintro ⟨d, hb⟩
    obtain ⟨p, -, hp, -, -⟩ := build_ok hb
    rw [build_of_unresolved hoff, hsame.plan_ok hdot hp]
    exact ⟨_, rfl⟩
  · rintro ⟨d', hb'⟩
    obtain ⟨p, -, hp, -, -⟩ := build_ok hb'
    rw [build_of_resolved ho hon, hsame.symm.plan_ok hdot hp]
    exact ⟨_, rfl⟩
  · obtain ⟨p, -, hp, -, -⟩ := build_ok hb
    rw [build_of_resolved ho hon, hp] at hb
    rw [build_of_unresolved hoff, hsame.plan_ok hdot hp] at hb'
    obtain rfl := Except.ok.inj hb
    obtain rfl := Except.ok.inj hb'
    have hasked := asked_build_of_resolved (r := r) ho hon hp
    obtain ⟨x, hx, rfl⟩ := Config.plan_ok hp
    obtain ⟨hleaves, hheld⟩ := nodeAt_leaves ho hx
    refine ⟨fun p => ?_, ⟨x.2, hleaves, fun p hp => ?_, ?_, fun y as => ?_, ?_⟩,
      asked_build_of_unresolved hoff, rfl⟩
    · rw [Node.walk_mapLists, Option.map_map]
      exact congrArg (Option.map · _) (funext fun n => n.kind_mapLists _)
    · rw [Node.walk_mapLists, hleaves.walk_eq p hp, Option.map_some, Node.mapLists,
        Resolver.addressList_eq]
    · show r.noted [] x.1.held = _
      rw [Resolver.value_resolveAll, hheld]
    · show (y, as) ∈ r.noted [] x.1.held ↔ _
      rw [Resolver.mem_noted_iff, hheld]
    · rw [hasked, hheld]
      rfl

/-- Two regions with names and addresses of servers, some of them twice. -/
def sampleLeaves (resolve : Bool) : Config :=
  ⟨.table [("acme", .table [("levels", .list [.text "region"]), ("resolve_servers", .boolean resolve),
    ("servers", .table [
      ("eu", .list [.text "b.example.com", .text "192.0.2.7", .text "b.example.com"]),
      ("us", .list [.text "a.example.com", .text "gone.example.com"])])])]⟩

theorem sampleLeaves_ordered : (sampleLeaves true).root.Ordered := by
  simp only [sampleLeaves, Value.Ordered, OrderedEntries, OrderedItems]
  decide

/-- One name stands for two addresses, one of which is configured too. -/
def sampleHosts : Resolver :=
  .ofTable [("a.example.com", .ok [.v4 192 0 2 1]),
    ("b.example.com", .ok [.v4 192 0 2 7, .v4 192 0 2 8])]

theorem build_resolves_sample :
    (sampleLeaves true).root.Ordered ∧ '.' ∉ "acme".toList ∧
    (sampleLeaves true).SameServers (sampleLeaves false) "acme" ∧
    (sampleLeaves true).flag ("acme" ++ ".resolve_servers") = true ∧
    (sampleLeaves false).flag ("acme" ++ ".resolve_servers") = false ∧
    ∃ d, ((sampleLeaves true).build sampleHosts "acme").value = .ok d ∧
      d.root.walk ["eu"] = some (.list ["192.0.2.7", "192.0.2.8"]) := by
  have ho := sampleLeaves_ordered
  have hdot : '.' ∉ "acme".toList := by decide
  have hsame : (sampleLeaves true).SameServers (sampleLeaves false) "acme" := ⟨rfl, rfl⟩
  have hon : (sampleLeaves true).flag ("acme" ++ ".resolve_servers") = true := by decide +kernel
  have hoff : (sampleLeaves false).flag ("acme" ++ ".resolve_servers") = false := by decide +kernel
  refine ⟨ho, hdot, hsame, hon, hoff, _, rfl, ?_⟩
  obtain ⟨-, ⟨leaves, hleaves, hwalk, -⟩, -⟩ :=
    (build_resolves ho hdot hsame hon hoff (r := sampleHosts)).2 _ _ rfl rfl
  have hmem : ["eu"] ∈ leaves := (hleaves.mem_iff ["eu"]).2 ⟨_, rfl⟩
  have haddresses : (((sampleLeaves true).stringsAt (["acme", "servers"] ++ ["eu"])).flatMap
      sampleHosts.addresses).eraseDups = ["192.0.2.7", "192.0.2.8"] := by decide +kernel
  rw [hwalk ["eu"] hmem, haddresses]

end Config

end Egress
