import Egress.Proofs.Directory.Resolution

/-!
# Servers behind the addresses at a path

Where servers are resolved, `Directory.entriesAt` groups the addresses at a path back under their
owners, and an owner of an address is every identifier noted with it, at whatever path of the vendor
it is configured (`mem_owners_iff`). So the entries at a path are all identifiers of the vendor that
share an address with one configured there (`Config.build_entries`); they are configured there
themselves as long as no identifier of another path shares one. Configurations are taken to be
ordered, as every one that is read from a text is (`Config.parse_ordered`).
-/

set_option autoImplicit false

namespace Egress

open Document

namespace Directory

variable {d : Directory}

/-! ## Owners -/

theorem mem_owners_iff {address name : String} (h : ∃ e ∈ d.resolved, address ∈ e.2) :
    name ∈ d.owners address ↔ ∃ addresses, (name, addresses) ∈ d.resolved ∧ address ∈ addresses := by
  have hmem : name ∈ Keyed.keys (d.resolved.filter fun e => address ∈ e.2) ↔
      ∃ addresses, (name, addresses) ∈ d.resolved ∧ address ∈ addresses := by
    simp [Keyed.keys]
  rw [owners]
  split
  · rename_i hnil
    obtain ⟨e, he, ha⟩ := h
    have : e ∈ d.resolved.filter fun e => address ∈ e.2 := by simp [he, ha]
    rw [List.map_eq_nil_iff.1 hnil] at this
    cases this
  · rw [sortTexts, List.mem_mergeSort, hmem]

theorem nodup_owners (hd : (Keyed.keys d.resolved).Nodup) (address : String) :
    (d.owners address).Nodup := by
  have hkeys : (Keyed.keys (d.resolved.filter fun e => address ∈ e.2)).Nodup :=
    hd.sublist (List.filter_sublist.map _)
  rw [owners]
  split
  · simp
  · exact (List.mergeSort_perm _ _).nodup_iff.2 hkeys

/-! ## Grouping -/

theorem get?_foldl_add {owners : List String} (hd : owners.Nodup) (entries : Resolved)
    (address name : String) :
    Keyed.get? name (owners.foldl (fun es owner =>
        Keyed.set owner ((Keyed.get? owner es).getD [] ++ [address]) es) entries) =
      if name ∈ owners then some ((Keyed.get? name entries).getD [] ++ [address])
      else Keyed.get? name entries := by
  induction owners generalizing entries with
  | nil => simp
  | cons owner owners ih =>
    obtain ⟨howner, hd⟩ := List.nodup_cons.1 hd
    rw [List.foldl_cons, ih hd, Keyed.get?_set]
    by_cases ho : owner = name
    · subst ho
      simp [howner]
    · simp [ho, Ne.symm ho]

/-- The entry of a name after some addresses are grouped: those it owns are added, in order. -/
theorem get?_grouped (hd : (Keyed.keys d.resolved).Nodup) (entries : Resolved)
    (addresses : List String) (name : String) :
    Keyed.get? name (addresses.foldl d.addAddress entries) =
      if addresses.filter (name ∈ d.owners ·) = [] then Keyed.get? name entries
      else some ((Keyed.get? name entries).getD [] ++ addresses.filter (name ∈ d.owners ·)) := by
  induction addresses generalizing entries with
  | nil => simp
  | cons address addresses ih =>
    rw [List.foldl_cons, ih, addAddress, get?_foldl_add (nodup_owners hd address)]
    by_cases hname : name ∈ d.owners address
    · rw [if_pos hname, List.filter_cons_of_pos (by simpa using hname)]
      split <;> simp_all
    · rw [if_neg hname, List.filter_cons_of_neg (by simpa using hname)]

theorem nodup_foldl_set {owners : List String} (value : Resolved → String → List String)
    {entries : Resolved} (h : (Keyed.keys entries).Nodup) :
    (Keyed.keys (owners.foldl (fun es owner => Keyed.set owner (value es owner) es) entries)).Nodup := by
  induction owners generalizing entries with
  | nil => exact h
  | cons owner owners ih => exact ih (Keyed.nodup_set _ h)

theorem nodup_grouped {entries : Resolved} (addresses : List String)
    (h : (Keyed.keys entries).Nodup) : (Keyed.keys (addresses.foldl d.addAddress entries)).Nodup := by
  induction addresses generalizing entries with
  | nil => exact h
  | cons address addresses ih => exact ih (nodup_foldl_set _ h)

theorem entriesAt_eq (hon : d.resolve = true) {path addresses : List String}
    (h : d.serversAt path = .ok addresses) :
    d.entriesAt path =
      .ok ((addresses.foldl d.addAddress []).map fun (name, addresses) => ⟨name, addresses⟩) := by
  rw [entriesAt, h, hon]
  rfl

/-- The entries of a resolved list are those that own some of its addresses, each with these. -/
theorem entriesAt_resolved (hon : d.resolve = true) (hd : (Keyed.keys d.resolved).Nodup)
    {path addresses : List String} (h : d.serversAt path = .ok addresses) :
    ∃ es, d.entriesAt path = .ok es ∧ (es.map ServerEntry.name).Nodup ∧
      ∀ e, e ∈ es ↔ e.addresses = addresses.filter (e.name ∈ d.owners ·) ∧ e.addresses ≠ [] := by
  have hnodup : (Keyed.keys (addresses.foldl d.addAddress [])).Nodup :=
    nodup_grouped addresses (by simp [Keyed.keys])
  refine ⟨_, entriesAt_eq hon h, ?_, fun e => ?_⟩
  · rw [List.map_map]
    exact hnodup
  · have hmem : e ∈ ((addresses.foldl d.addAddress []).map fun (name, addresses) =>
        (⟨name, addresses⟩ : ServerEntry)) ↔ (e.name, e.addresses) ∈ addresses.foldl d.addAddress [] := by
      simp only [List.mem_map, Prod.exists]
      constructor
      · rintro ⟨name, addresses, he, rfl⟩
        exact he
      · exact fun he => ⟨_, _, he, rfl⟩
    have hget : (e.name, e.addresses) ∈ addresses.foldl d.addAddress [] ↔
        Keyed.get? e.name (addresses.foldl d.addAddress []) = some e.addresses :=
      ⟨Keyed.get?_of_mem hnodup, Keyed.mem_of_get?⟩
    rw [hmem, hget, get?_grouped hd]
    split
    · rename_i hnil
      simp [hnil]
    · rename_i hne
      constructor
      · intro heq
        have hown : addresses.filter (e.name ∈ d.owners ·) = e.addresses := by simpa using heq
        exact ⟨hown.symm, hown ▸ hne⟩
      · intro heq
        simp [heq.1]

end Directory

/-! ## Addresses in common -/

namespace Resolver

variable {r : Resolver} {identifiers : List String}

/-- Two identifiers have an address in common. -/
def Share (r : Resolver) (x y : String) : Prop :=
  ∃ address ∈ r.addresses x, address ∈ r.addresses y

/-- The addresses of some identifiers that are also those of another one. -/
def common (r : Resolver) (identifiers : List String) (other : String) : List String :=
  (r.addressList identifiers).filter (· ∈ r.addresses other)

theorem common_ne_nil_iff {other : String} :
    r.common identifiers other ≠ [] ↔ ∃ x ∈ identifiers, r.Share other x := by
  constructor
  · intro hne
    obtain ⟨a, ha⟩ := List.exists_mem_of_ne_nil _ hne
    obtain ⟨hids, hother⟩ := List.mem_filter.1 ha
    obtain ⟨x, hx, hax⟩ := mem_addressList.1 hids
    exact ⟨x, hx, a, of_decide_eq_true hother, hax⟩
  · rintro ⟨x, hx, a, hother, hax⟩
    exact List.ne_nil_of_mem
      (List.mem_filter.2 ⟨mem_addressList.2 ⟨x, hx, hax⟩, decide_eq_true hother⟩)

end Resolver

namespace Config

variable {c : Config} {r : Resolver} {vendor : String} {d : Directory} {path : List String}

/-- An identifier is among the servers of a vendor that are configured at a path. -/
def HasServer (c : Config) (vendor : String) (path : List String) (identifier : String) : Prop :=
  path.length = (c.strings (vendor ++ ".levels")).length ∧
    identifier ∈ c.stringsAt ([vendor, "servers"] ++ path)

/-- A directory with resolved servers has the addresses of the servers at every path of the declared
depth, and notes those of all servers of the vendor. -/
theorem build_resolved_servers (ho : c.root.Ordered)
    (hon : c.flag (vendor ++ ".resolve_servers") = true) (hb : (c.build r vendor).value = .ok d) :
    d.resolve = true ∧ (Keyed.keys d.resolved).Nodup ∧
      (∀ path, path.length = (c.strings (vendor ++ ".levels")).length →
        (c.root.at? ([vendor, "servers"] ++ path)).isSome = true →
        d.serversAt path = .ok (r.addressList (c.stringsAt ([vendor, "servers"] ++ path)))) ∧
      ∀ name addresses, (name, addresses) ∈ d.resolved ↔
        (∃ path, c.HasServer vendor path name) ∧ addresses = r.addresses name ∧ addresses ≠ [] := by
  obtain ⟨x, hx, rfl⟩ := build_resolved ho hon hb
  have hm := nodeAt_mirrors hx
  refine ⟨rfl, Resolver.nodup_noted (by simp [Keyed.keys]) _, fun path hdepth hv => ?_,
    fun name addresses => ?_⟩
  · rw [Directory.serversAt, Node.walk_mapLists, hm.walk_list hdepth hv]
    rfl
  · rw [Resolver.mem_noted_iff, Node.mem_held_iff (nodeAt_distinct hx)]
    exact and_congr_left' (exists_congr fun path => hm.leadsTo_iff)

/-- The owners of an address at a path are all identifiers of the vendor that have the address. -/
theorem mem_owners_at (ho : c.root.Ordered) (hon : c.flag (vendor ++ ".resolve_servers") = true)
    (hb : (c.build r vendor).value = .ok d)
    (hdepth : path.length = (c.strings (vendor ++ ".levels")).length) {name address : String}
    (ha : address ∈ r.addressList (c.stringsAt ([vendor, "servers"] ++ path))) :
    name ∈ d.owners address ↔
      (∃ q, c.HasServer vendor q name) ∧ address ∈ r.addresses name := by
  obtain ⟨-, -, -, hresolved⟩ := build_resolved_servers ho hon hb
  obtain ⟨y, hy, hay⟩ := Resolver.mem_addressList.1 ha
  have hnoted : (y, r.addresses y) ∈ d.resolved :=
    (hresolved y _).2 ⟨⟨path, hdepth, hy⟩, rfl, List.ne_nil_of_mem hay⟩
  rw [Directory.mem_owners_iff ⟨_, hnoted, hay⟩]
  constructor
  · rintro ⟨as, has, ha⟩
    obtain ⟨hq, rfl, -⟩ := (hresolved name as).1 has
    exact ⟨hq, ha⟩
  · rintro ⟨hq, ha⟩
    exact ⟨_, (hresolved name _).2 ⟨hq, rfl, List.ne_nil_of_mem ha⟩, ha⟩

/-- The entries at a path are the identifiers configured anywhere for the vendor that own some of
the addresses there, each with these. They are all configured at the path if and only if no
identifier that is configured only at other paths shares an address with one configured there. -/
theorem build_entries (ho : c.root.Ordered) (hon : c.flag (vendor ++ ".resolve_servers") = true)
    (hb : (c.build r vendor).value = .ok d)
    (hdepth : path.length = (c.strings (vendor ++ ".levels")).length)
    (hv : (c.root.at? ([vendor, "servers"] ++ path)).isSome = true) :
    ∃ es, d.entriesAt path = .ok es ∧ (es.map ServerEntry.name).Nodup ∧
      (∀ e, e ∈ es ↔ (∃ q, c.HasServer vendor q e.name) ∧
        e.addresses = r.common (c.stringsAt ([vendor, "servers"] ++ path)) e.name ∧
        e.addresses ≠ []) ∧
      ((∀ e ∈ es, c.HasServer vendor path e.name) ↔
        ∀ q x y, c.HasServer vendor q x → c.HasServer vendor path y → r.Share x y →
          c.HasServer vendor path x) := by
  obtain ⟨hres, hnodup, hservers, -⟩ := build_resolved_servers ho hon hb
  obtain ⟨es, hes, hnames, hmem⟩ := Directory.entriesAt_resolved hres hnodup (hservers path hdepth hv)
  have hentry (e : ServerEntry) : e ∈ es ↔ (∃ q, c.HasServer vendor q e.name) ∧
      e.addresses = r.common (c.stringsAt ([vendor, "servers"] ++ path)) e.name ∧
      e.addresses ≠ [] := by
    rw [hmem]
    by_cases hq : ∃ q, c.HasServer vendor q e.name
    · have hcommon : (r.addressList (c.stringsAt ([vendor, "servers"] ++ path))).filter
          (e.name ∈ d.owners ·) = r.common (c.stringsAt ([vendor, "servers"] ++ path)) e.name :=
        List.filter_congr fun a ha => by
          rw [decide_eq_decide, mem_owners_at ho hon hb hdepth ha, and_iff_right hq]
      rw [hcommon, and_iff_right hq]
    · have hnone : (r.addressList (c.stringsAt ([vendor, "servers"] ++ path))).filter
          (e.name ∈ d.owners ·) = [] :=
        List.filter_eq_nil_iff.2 fun a ha => by simp [mem_owners_at ho hon hb hdepth ha, hq]
      rw [hnone]
      exact ⟨fun h => absurd h.1 h.2, fun h => absurd h.1 hq⟩
  refine ⟨es, hes, hnames, hentry, fun hall q x y hx hy hshare => ?_, fun hnone e he => ?_⟩
  · have hne := Resolver.common_ne_nil_iff.2 ⟨y, hy.2, hshare⟩
    exact hall ⟨x, _⟩ ((hentry ⟨x, _⟩).2 ⟨⟨q, hx⟩, rfl, hne⟩)
  · obtain ⟨⟨q, hq⟩, haddresses, hne⟩ := (hentry e).1 he
    obtain ⟨y, hy, hshare⟩ := Resolver.common_ne_nil_iff.1 (haddresses ▸ hne)
    exact hnone q e.name y hq ⟨hdepth, hy⟩ hshare

/-- Two regions with one server each. -/
def sampleRegions : Config :=
  ⟨.table [("acme", .table [("levels", .list [.text "region"]), ("resolve_servers", .boolean true),
    ("servers", .table [("eu", .list [.text "b.example.com"]),
      ("us", .list [.text "a.example.com"])])])]⟩

/-- Two names of one host. -/
def sampleNames : Resolver :=
  .ofTable [("a.example.com", .ok [.v4 192 0 2 1]), ("b.example.com", .ok [.v4 192 0 2 1])]

theorem sampleRegions_ordered : sampleRegions.root.Ordered := by
  simp only [sampleRegions, Value.Ordered, OrderedEntries, OrderedItems]
  decide

theorem build_entries_sample :
    sampleRegions.root.Ordered ∧ sampleRegions.flag ("acme" ++ ".resolve_servers") = true ∧
    ["us"].length = (sampleRegions.strings ("acme" ++ ".levels")).length ∧
    (sampleRegions.root.at? (["acme", "servers"] ++ ["us"])).isSome = true ∧
    ∃ d, (sampleRegions.build sampleNames "acme").value = .ok d ∧
    ∃ es, d.entriesAt ["us"] = .ok es ∧ ⟨"a.example.com", ["192.0.2.1"]⟩ ∈ es := by
  have hon : sampleRegions.flag ("acme" ++ ".resolve_servers") = true := by decide +kernel
  have hdepth : ["us"].length = (sampleRegions.strings ("acme" ++ ".levels")).length := by
    decide +kernel
  refine ⟨sampleRegions_ordered, hon, hdepth, rfl, _, rfl, ?_⟩
  obtain ⟨es, hes, -, hentry, -⟩ :=
    build_entries sampleRegions_ordered hon (r := sampleNames) rfl hdepth (by rfl)
  have hshare : sampleNames.common (sampleRegions.stringsAt (["acme", "servers"] ++ ["us"]))
      "a.example.com" = ["192.0.2.1"] := by decide +kernel
  exact ⟨es, hes, (hentry _).2 ⟨⟨["us"], hdepth, by decide +kernel⟩, hshare.symm, by decide⟩⟩

/-- The directory with both regions. -/
def sampleDirectory : Directory where
  name := "acme"
  levels := ["region"]
  resolve := true
  root := .map [("eu", .list ["192.0.2.1"]), ("us", .list ["192.0.2.1"])]
  resolved := [("b.example.com", ["192.0.2.1"]), ("a.example.com", ["192.0.2.1"])]

/-- The server of one region is listed with that of another, which has the same address. -/
theorem entries_of_other_region :
    (sampleRegions.build sampleNames "acme").value = .ok sampleDirectory ∧
      sampleDirectory.entriesAt ["us"] =
        .ok [⟨"a.example.com", ["192.0.2.1"]⟩, ⟨"b.example.com", ["192.0.2.1"]⟩] ∧
      "b.example.com" ∉ sampleRegions.stringsAt ["acme", "servers", "us"] := by
  have hkeys : Keyed.keys (sampleDirectory.resolved.filter fun e => "192.0.2.1" ∈ e.2) =
      ["b.example.com", "a.example.com"] := by decide +kernel
  have howners : sampleDirectory.owners "192.0.2.1" = ["a.example.com", "b.example.com"] := by
    rw [Directory.owners, hkeys]
    simp [sortTexts, List.mergeSort]
  have hservers : sampleDirectory.serversAt ["us"] = .ok ["192.0.2.1"] := rfl
  refine ⟨rfl, ?_, by decide +kernel⟩
  rw [Directory.entriesAt_eq rfl hservers, List.foldl_cons, Directory.addAddress, howners]
  rfl

end Config

end Egress
