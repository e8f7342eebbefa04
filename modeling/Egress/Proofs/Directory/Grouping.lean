import Egress.Proofs.Directory.Entries
import Egress.Proofs.Directory.Leaves
import Mathlib.Data.List.Nodup

/-!
# Addresses grouped by their owners

An address belongs to every identifier that is noted with it, and to itself when none is
(`Directory.Owns`). `Directory.entriesAt` goes through a list of addresses once and adds each to the
entries of its owners. What comes out is a grouping (`Directory.Grouped`): one entry for each owner,
with just its addresses in the order of the list, and the entries in the order in which the list
comes to them. A list has one grouping only, whatever the order in which the identifiers are noted,
so this says what the entries are (`entries_grouped`).
-/

set_option autoImplicit false

namespace Egress

theorem pairwise_sortTexts (ss : List String) : (sortTexts ss).Pairwise (· ≤ ·) := by
  refine (List.pairwise_mergeSort ?_ ?_ _).imp of_decide_eq_true
  · simp only [decide_eq_true_eq]
    exact fun a b c => String.le_trans
  · simp only [Bool.or_eq_true, decide_eq_true_eq]
    exact String.le_total

namespace Directory

variable {d : Directory}

/-! ## Owners -/

/-- An identifier has an address, or it is an address that no identifier has. -/
def Owns (d : Directory) (name address : String) : Prop :=
  (∃ addresses, (name, addresses) ∈ d.resolved ∧ address ∈ addresses) ∨
    (name = address ∧ ∀ e ∈ d.resolved, address ∉ e.2)

theorem mem_owners {name address : String} : name ∈ d.owners address ↔ d.Owns name address := by
  by_cases h : ∃ e ∈ d.resolved, address ∈ e.2
  · rw [mem_owners_iff h]
    obtain ⟨e, he, ha⟩ := h
    exact ⟨.inl, fun ho => ho.resolve_right fun hself => hself.2 e he ha⟩
  · have hnone : ∀ e ∈ d.resolved, address ∉ e.2 := fun e he ha => h ⟨e, he, ha⟩
    have hself : d.owners address = [address] := by
      rw [owners, List.filter_eq_nil_iff.2 fun e he => by simpa using hnone e he]
      rfl
    rw [hself, List.mem_singleton]
    constructor
    · exact fun heq => .inr ⟨heq, hnone⟩
    · rintro (⟨addresses, hin, ha⟩ | ⟨heq, -⟩)
      · exact absurd ha (hnone _ hin)
      · exact heq

instance (d : Directory) (name address : String) : Decidable (d.Owns name address) :=
  decidable_of_iff (name ∈ d.owners address) mem_owners

/-- No address is without an owner. -/
theorem exists_owns (d : Directory) (address : String) : ∃ name, d.Owns name address := by
  by_cases h : ∃ e ∈ d.resolved, address ∈ e.2
  · obtain ⟨⟨name, addresses⟩, he, ha⟩ := h
    exact ⟨name, .inl ⟨addresses, he, ha⟩⟩
  · exact ⟨address, .inr ⟨rfl, fun e he ha => h ⟨e, he, ha⟩⟩⟩

theorem ascending_owners (hd : (Keyed.keys d.resolved).Nodup) (address : String) :
    (d.owners address).Pairwise (· < ·) := by
  have hle : (d.owners address).Pairwise (· ≤ ·) := by
    rw [owners]
    split
    · exact List.pairwise_singleton _ _
    · exact pairwise_sortTexts _
  exact hle.imp₂ (fun a b => Std.lt_of_le_of_ne) (nodup_owners hd address)

/-! ## The order of the entries -/

/-- Where an owner comes up in a list of addresses for the first time. -/
def first (d : Directory) (addresses : List String) (name : String) : Nat :=
  addresses.findIdx fun a => decide (d.Owns name a)

/-- One owner comes up before the other, or together with it and before it in the order of names. -/
def Precedes (d : Directory) (addresses : List String) (x y : String) : Prop :=
  d.first addresses x < d.first addresses y ∨
    (d.first addresses x = d.first addresses y ∧ x < y)

/-- The addresses of a list grouped by owner (module doc). -/
structure Grouped (d : Directory) (addresses : List String) (es : List ServerEntry) : Prop where
  nodup : (es.map ServerEntry.name).Nodup
  mem_iff : ∀ name, name ∈ es.map ServerEntry.name ↔ ∃ a ∈ addresses, d.Owns name a
  owned : ∀ e ∈ es, e.addresses = addresses.filter fun a => d.Owns e.name a
  covered : ∀ a ∈ addresses, ∃ e ∈ es, a ∈ e.addresses
  inOrder : (es.map ServerEntry.name).Pairwise (d.Precedes addresses)

section
variable {addresses done rest : List String} {a x y : String}

theorem Precedes.asymm (h : d.Precedes addresses x y) (h' : d.Precedes addresses y x) : False := by
  rcases h with h | ⟨h, hxy⟩ <;> rcases h' with h' | ⟨h', hyx⟩
  · omega
  · omega
  · omega
  · exact String.lt_irrefl x (String.lt_trans hxy hyx)

theorem first_lt (h : ∃ b ∈ done, d.Owns x b) : d.first (done ++ rest) x < done.length := by
  have hlt : done.findIdx (fun b => decide (d.Owns x b)) < done.length := by
    rw [List.findIdx_lt_length]
    simpa using h
  rw [first, List.findIdx_append, if_pos hlt]
  exact hlt

theorem first_eq (hnew : ¬ ∃ b ∈ done, d.Owns x b) (ha : d.Owns x a) :
    d.first (done ++ a :: rest) x = done.length := by
  have hnone : ¬ done.findIdx (fun b => decide (d.Owns x b)) < done.length := by
    rw [List.findIdx_lt_length]
    simpa using hnew
  rw [first, List.findIdx_append, if_neg hnone, List.findIdx_cons, decide_eq_true ha]
  simp

/-- Writing the entries of some owners puts those without one behind the others, in their order. -/
theorem keys_foldl_set {owners : List String} (hd : owners.Nodup)
    (value : Resolved → String → List String) (entries : Resolved) :
    Keyed.keys (owners.foldl (fun es owner => Keyed.set owner (value es owner) es) entries) =
      Keyed.keys entries ++ owners.filter (· ∉ Keyed.keys entries) := by
  induction owners generalizing entries with
  | nil => simp
  | cons owner owners ih =>
    obtain ⟨howner, hd⟩ := List.nodup_cons.1 hd
    rw [List.foldl_cons, ih hd, Keyed.keys_set]
    split
    · rename_i hin
      rw [List.filter_cons_of_neg (by simpa using hin)]
    · rename_i hout
      have hrest : owners.filter (· ∉ Keyed.keys entries ++ [owner]) =
          owners.filter (· ∉ Keyed.keys entries) := by
        refine List.filter_congr fun x hx => ?_
        have hne : x ≠ owner := fun heq => howner (heq ▸ hx)
        simp [hne]
      rw [List.filter_cons_of_pos (by simpa using hout), hrest, List.append_assoc,
        List.singleton_append]

/-- After each address the entries are those of the owners so far, in order. -/
theorem precedes_grouped (hd : (Keyed.keys d.resolved).Nodup) (done rest : List String)
    {entries : Resolved}
    (hkeys : ∀ x, x ∈ Keyed.keys entries ↔ ∃ b ∈ done, d.Owns x b)
    (hp : (Keyed.keys entries).Pairwise (d.Precedes (done ++ rest))) :
    (Keyed.keys (rest.foldl d.addAddress entries)).Pairwise (d.Precedes (done ++ rest)) := by
  induction rest generalizing done entries with
  | nil => exact hp
  | cons a rest ih =>
    have hstep : Keyed.keys (d.addAddress entries a) =
        Keyed.keys entries ++ (d.owners a).filter (· ∉ Keyed.keys entries) :=
      keys_foldl_set (nodup_owners hd a) _ entries
    have hnew : ∀ x ∈ (d.owners a).filter (· ∉ Keyed.keys entries),
        d.first (done ++ a :: rest) x = done.length := by
      intro x hx
      obtain ⟨hx, hout⟩ := List.mem_filter.1 hx
      exact first_eq (mt (hkeys x).2 (of_decide_eq_true hout)) (mem_owners.1 hx)
    have hsplit : done ++ a :: rest = (done ++ [a]) ++ rest := by simp
    rw [hsplit] at hp hnew ⊢
    refine ih (done ++ [a]) (fun x => ?_) ?_
    · rw [hstep, List.mem_append, List.mem_filter, decide_eq_true_eq, hkeys, mem_owners]
      by_cases hx : ∃ b ∈ done, d.Owns x b <;>
        simp [hx, or_and_right, exists_or]
    · rw [hstep, List.pairwise_append]
      refine ⟨hp, ?_, fun x hx y hy => .inl ?_⟩
      · -- the new owners of one address come up together, so the order of the names decides
        refine List.Pairwise.imp_of_mem (fun {x y} hx hy hxy => .inr ⟨?_, hxy⟩)
          ((ascending_owners hd a).sublist List.filter_sublist)
        rw [hnew x hx, hnew y hy]
      · rw [hnew y hy, List.append_assoc]
        exact first_lt ((hkeys x).1 hx)

/-- A list has one grouping only. -/
theorem Grouped.unique {es es' : List ServerEntry} (h : d.Grouped addresses es)
    (h' : d.Grouped addresses es') : es = es' := by
  have hnames : es.map ServerEntry.name = es'.map ServerEntry.name := by
    refine List.Perm.eq_of_pairwise (fun x y _ _ hxy hyx => (hxy.asymm hyx).elim) h.inOrder
      h'.inOrder ?_
    rw [List.perm_ext_iff_of_nodup h.nodup h'.nodup]
    exact fun name => (h.mem_iff name).trans (h'.mem_iff name).symm
  have hback : ∀ {es : List ServerEntry}, d.Grouped addresses es → es =
      (es.map ServerEntry.name).map fun name => ⟨name, addresses.filter fun a => d.Owns name a⟩ := by
    intro es h
    rw [List.map_map]
    refine (List.map_id es).symm.trans (List.map_congr_left fun e he => ?_)
    obtain ⟨name, as⟩ := e
    exact congrArg (ServerEntry.mk name) (h.owned _ he)
  rw [hback h, hback h', hnames]

end

/-- The entries at a path are the grouping of the addresses there. -/
theorem entriesAt_grouped (hon : d.resolve = true) (hd : (Keyed.keys d.resolved).Nodup)
    {path addresses : List String} (hlist : d.serversAt path = .ok addresses) :
    ∃ es, d.entriesAt path = .ok es ∧ d.Grouped addresses es := by
  obtain ⟨es, hes, hnodup, hmem⟩ := entriesAt_resolved hon hd hlist
  have hfilter (name : String) : addresses.filter (name ∈ d.owners ·) =
      addresses.filter fun a => d.Owns name a :=
    List.filter_congr fun a _ => decide_eq_decide.2 mem_owners
  have hnames : es.map ServerEntry.name = Keyed.keys (addresses.foldl d.addAddress []) := by
    rw [entriesAt_eq hon hlist] at hes
    obtain rfl := Except.ok.inj hes
    rw [List.map_map]
    rfl
  have howned : ∀ e ∈ es, e.addresses = addresses.filter fun a => d.Owns e.name a :=
    fun e he => ((hmem e).1 he).1.trans (hfilter e.name)
  -- an owner of an address of the list has an entry with the address
  have hentry {name a : String} (ha : a ∈ addresses) (ho : d.Owns name a) :
      ∃ e ∈ es, e.name = name ∧ a ∈ e.addresses := by
    have hin : a ∈ addresses.filter (name ∈ d.owners ·) := by simp [ha, mem_owners, ho]
    exact ⟨⟨name, _⟩, (hmem _).2 ⟨rfl, List.ne_nil_of_mem hin⟩, rfl, hin⟩
  refine ⟨es, hes, hnodup, fun name => ⟨?_, ?_⟩, howned, fun a ha => ?_, ?_⟩
  · intro hname
    obtain ⟨e, he, rfl⟩ := List.mem_map.1 hname
    obtain ⟨a, ha⟩ := List.exists_mem_of_ne_nil _ ((hmem e).1 he).2
    rw [howned e he, List.mem_filter, decide_eq_true_eq] at ha
    exact ⟨a, ha⟩
  · rintro ⟨a, ha, ho⟩
    obtain ⟨e, he, rfl, -⟩ := hentry ha ho
    exact List.mem_map_of_mem he
  · obtain ⟨name, ho⟩ := d.exists_owns a
    obtain ⟨e, he, -, hin⟩ := hentry ha ho
    exact ⟨e, he, hin⟩
  · rw [hnames]
    exact precedes_grouped hd [] addresses (by simp [Keyed.keys]) .nil

end Directory

/-! ## Directories that are built -/

namespace Config

variable {c : Config} {r : Resolver} {vendor : String} {d : Directory} {path addresses : List String}

theorem flag_of_build (hb : (c.build r vendor).value = .ok d) :
    c.flag (vendor ++ ".resolve_servers") = d.resolve := by
  obtain ⟨p, -, hp, -, rfl⟩ := build_ok hb
  obtain ⟨-, -, rfl⟩ := plan_ok hp
  rfl

/-- The lists of a directory with resolved servers hold the addresses of what is configured there. -/
theorem list_of_build (ho : c.root.Ordered) (hon : d.resolve = true)
    (hb : (c.build r vendor).value = .ok d) (hlist : d.root.walk path = some (.list addresses)) :
    path.length = (c.strings (vendor ++ ".levels")).length ∧
      addresses = r.addressList (c.stringsAt ([vendor, "servers"] ++ path)) := by
  obtain ⟨x, hx, rfl⟩ := build_resolved ho ((flag_of_build hb).trans hon) hb
  have hm := nodeAt_mirrors hx
  rw [Node.walk_mapLists] at hlist
  obtain ⟨node, hnode, hmap⟩ := Option.map_eq_some_iff.1 hlist
  cases node with
  | undefined => cases hmap
  | map cs => cases hmap
  | list ids =>
    have hdepth := hm.length_of_list hnode
    obtain rfl := Node.list.inj (hm.list path _ hnode hdepth)
    exact ⟨hdepth, (Node.list.inj hmap).symm⟩

/-- Of the addresses at a path, a server configured there owns just its own. -/
theorem filter_owns (ho : c.root.Ordered) (hon : d.resolve = true)
    (hb : (c.build r vendor).value = .ok d) (hlist : d.root.walk path = some (.list addresses))
    {x : String} (hx : x ∈ c.stringsAt ([vendor, "servers"] ++ path)) :
    (addresses.filter fun a => d.Owns x a) = addresses.filter (· ∈ r.addresses x) := by
  obtain ⟨hdepth, rfl⟩ := list_of_build ho hon hb hlist
  refine List.filter_congr fun a ha => decide_eq_decide.2 ?_
  rw [← Directory.mem_owners, mem_owners_at ho ((flag_of_build hb).trans hon) hb hdepth ha]
  exact and_iff_right ⟨path, hdepth, hx⟩

end Config

namespace Directory

/-- The entries at a path are the one grouping of the addresses there. If the directory was built
from a configuration, a server that is configured at the path and has addresses has one entry, in
which are its addresses and no others, each once and in the order of the list. -/
theorem entries_grouped {d : Directory} (hon : d.resolve = true)
    (hd : (Keyed.keys d.resolved).Nodup) {path addresses : List String}
    (hlist : d.root.walk path = some (.list addresses)) :
    ∃ es, d.entriesAt path = .ok es ∧ d.Grouped addresses es ∧
      (∀ es', d.Grouped addresses es' → es' = es) ∧
      ∀ (c : Config) (r : Resolver), c.root.Ordered → (c.build r d.name).value = .ok d →
        ∀ x ∈ c.stringsAt ([d.name, "servers"] ++ path), r.addresses x ≠ [] →
          ∃ e ∈ es, e.name = x ∧ (∀ e' ∈ es, e'.name = x → e' = e) ∧
            (∀ a, a ∈ e.addresses ↔ a ∈ r.addresses x) ∧ e.addresses.Nodup ∧
            e.addresses.Sublist addresses := by
  have hservers : d.serversAt path = .ok addresses := by
    rw [serversAt, hlist]
    rfl
  obtain ⟨es, hes, hgrouped⟩ := entriesAt_grouped hon hd hservers
  refine ⟨es, hes, hgrouped, fun es' h => h.unique hgrouped, fun c r ho hb x hx hne => ?_⟩
  obtain ⟨-, hlist'⟩ := Config.list_of_build ho hon hb hlist
  have hfilter := Config.filter_owns ho hon hb hlist hx
  have hmem : ∀ a ∈ r.addresses x, a ∈ addresses := by
    intro a ha
    rw [hlist', Resolver.mem_addressList]
    exact ⟨x, hx, ha⟩
  obtain ⟨a, ha⟩ := List.exists_mem_of_ne_nil _ hne
  have howns : d.Owns x a := by
    have hin : a ∈ addresses.filter fun a => d.Owns x a := by
      rw [hfilter]
      exact List.mem_filter.2 ⟨hmem a ha, decide_eq_true ha⟩
    exact of_decide_eq_true (List.mem_filter.1 hin).2
  obtain ⟨e, he, rfl⟩ := List.mem_map.1 ((hgrouped.mem_iff x).2 ⟨a, hmem a ha, howns⟩)
  have hown := (hgrouped.owned e he).trans hfilter
  refine ⟨e, he, rfl, fun e' he' hname => ?_, fun b => ?_, ?_, ?_⟩
  · exact List.inj_on_of_nodup_map hgrouped.nodup he' he hname
  · rw [hown, List.mem_filter, decide_eq_true_eq]
    exact and_iff_right_of_imp (hmem b)
  · rw [hown, hlist']
    exact (nodup_addNew _ List.nodup_nil).filter _
  · rw [hown]
    exact List.filter_sublist

/-- Of the two servers in the first list, one is an address that the other has too. -/
def sampleShared : Directory where
  name := "acme"
  levels := ["region"]
  resolve := true
  root := .map [("eu", .list ["192.0.2.7", "192.0.2.8"]), ("us", .list ["192.0.2.1"])]
  resolved := [("b.example.com", ["192.0.2.7", "192.0.2.8"]), ("192.0.2.7", ["192.0.2.7"]),
    ("a.example.com", ["192.0.2.1"])]

theorem entries_grouped_sample :
    sampleShared.resolve = true ∧ (Keyed.keys sampleShared.resolved).Nodup ∧
      sampleShared.root.walk ["eu"] = some (.list ["192.0.2.7", "192.0.2.8"]) ∧
      (Config.sampleLeaves true).root.Ordered ∧
      ((Config.sampleLeaves true).build Config.sampleHosts "acme").value = .ok sampleShared ∧
      ∃ es, sampleShared.entriesAt ["eu"] = .ok es ∧
        (∃ e ∈ es, e.name = "192.0.2.7" ∧ "192.0.2.8" ∉ e.addresses) ∧
        ∃ e ∈ es, e.name = "b.example.com" ∧ "192.0.2.7" ∈ e.addresses := by
  have ho := Config.sampleLeaves_ordered
  have hb : ((Config.sampleLeaves true).build Config.sampleHosts "acme").value = .ok sampleShared := by
    rfl
  have hon : sampleShared.resolve = true := rfl
  have hd : (Keyed.keys sampleShared.resolved).Nodup := by decide
  have hlist : sampleShared.root.walk ["eu"] = some (.list ["192.0.2.7", "192.0.2.8"]) := rfl
  obtain ⟨es, hes, -, -, hbuilt⟩ := entries_grouped hon hd hlist
  obtain ⟨e, he, hname, -, hmem, -⟩ := hbuilt _ _ ho hb "192.0.2.7" (by decide +kernel)
    (by decide +kernel)
  obtain ⟨e', he', hname', -, hmem', -⟩ := hbuilt _ _ ho hb "b.example.com" (by decide +kernel)
    (by decide +kernel)
  refine ⟨hon, hd, hlist, ho, hb, es, hes, ⟨e, he, hname, ?_⟩, e', he', hname', ?_⟩
  · rw [hmem]
    decide +kernel
  · rw [hmem']
    decide +kernel

end Directory

end Egress
