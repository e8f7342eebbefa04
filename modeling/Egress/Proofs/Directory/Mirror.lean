import Egress.Proofs.Config.Paths
import Egress.Proofs.Directory.Distinct

/-!
# Directories mirror the configuration

The servers of a vendor are configured as tables in tables, one for each level the vendor declares,
with the server lists below the last (`Config.Layered`). A directory whose servers are not resolved
is built exactly from such configurations, and is then their image (`Config.Mirrors`): a path of keys
leads to a node where the configuration has a value, to a map with the keys of the table above the
declared depth, and to the list of the configured texts at that depth.
-/

set_option autoImplicit false

namespace Egress

open Document

namespace Config

variable {c : Config} {path : List String}

/-! ## Layers -/

/-- Below a path there are tables in tables down to depth `n`, and no table at that depth. -/
def Layered (c : Config) (path : List String) (n : Nat) : Prop :=
  ∀ p v, c.root.at? (path ++ p) = some v →
    (p.length < n → v.shape = .table) ∧ (p.length = n → v.shape ≠ .table)

theorem layered_of_none {n : Nat} (h : c.root.at? path = none) : c.Layered path n := by
  intro p v hv
  rw [Value.at?_append, h] at hv
  cases hv

theorem layered_zero : c.Layered path 0 ↔ c.shapeAt? path ≠ some .table := by
  constructor
  · intro h ht
    obtain ⟨v, hv, hs⟩ := Option.map_eq_some_iff.1 ht
    rw [← List.append_nil path] at hv
    exact (h [] v hv).2 rfl hs
  · intro h p v hv
    refine ⟨nofun, fun hp => ?_⟩
    obtain rfl := List.length_eq_zero_iff.1 hp
    rw [List.append_nil] at hv
    intro hs
    exact h (by rw [shapeAt?, hv, Option.map_some, hs])

theorem layered_succ {n : Nat} :
    c.Layered path (n + 1) ↔ (∀ v, c.root.at? path = some v → v.shape = .table) ∧
      ∀ k, c.Layered (path ++ [k]) n := by
  constructor
  · intro h
    refine ⟨fun v hv => ?_, fun k p v hv => ?_⟩
    · rw [← List.append_nil path] at hv
      exact (h [] v hv).1 (Nat.succ_pos n)
    · rw [← List.append_cons] at hv
      simpa using h (k :: p) v hv
  · rintro ⟨htop, hbelow⟩ p v hv
    cases p with
    | nil =>
      rw [List.append_nil] at hv
      exact ⟨fun _ => htop v hv, nofun⟩
    | cons k p =>
      rw [List.append_cons] at hv
      simpa using hbelow k p v hv

/-! ## The tree of a configuration -/

/-- One more child of a map, with the paths of the lists below it. -/
def addChild (build : String → Except DirectoryError (Node × List (List String)))
    (x : Node × List (List String)) (key : String) :
    Except DirectoryError (Node × List (List String)) := do
  let (child, below) ← build key
  match x.1.setChild key child with
  | .ok node => .ok (node, x.2 ++ below.map (key :: ·))
  | .error e => .error (.conflict e)

theorem nodeAt_nil (c : Config) (path : List String) :
    c.nodeAt [] path = match c.shapeAt? path with
      | none => .error (.config (.missing (".".intercalate path)))
      | some .table => .error (.config (.tableForServers path))
      | some _ => .ok (.list (c.stringsAt path), [[]]) := rfl

theorem nodeAt_cons (c : Config) (level : String) (deeper path : List String) :
    c.nodeAt (level :: deeper) path = match c.shapeAt? path with
      | none => .error (.config (.missing (".".intercalate path)))
      | some .table =>
        (c.keysAt path).foldlM (addChild fun key => c.nodeAt deeper (path ++ [key])) (.map [], [])
      | some found => .error (.config (.noTableFor path level found)) := rfl

section
variable {build : String → Except DirectoryError (Node × List (List String))}

theorem addChild_map {key : String} {cs : List (String × Node)} {lists : List (List String)} :
    addChild build (.map cs, lists) key = (build key).map fun y =>
      (.map (Keyed.set key y.1 cs), lists ++ y.2.map (key :: ·)) := by
  cases hb : build key <;> simp [addChild, hb, bind, Except.bind, Except.map, Node.setChild]

/-- Children are added as long as every one of them can be built. -/
theorem exists_foldlM_addChild {keys : List String} {cs : List (String × Node)}
    {lists : List (List String)} (h : ∀ k ∈ keys, ∃ y, build k = .ok y) :
    ∃ x, keys.foldlM (addChild build) (.map cs, lists) = .ok x := by
  induction keys generalizing cs lists with
  | nil => exact ⟨_, rfl⟩
  | cons k keys ih =>
    obtain ⟨y, hy⟩ := h k List.mem_cons_self
    rw [List.foldlM_cons, addChild_map, hy]
    exact ih fun k' hk => h k' (List.mem_cons_of_mem k hk)

/-- A map that got its children has each of them under its key, next to those it had before. -/
theorem foldlM_addChild_ok {keys : List String} {cs : List (String × Node)}
    {lists : List (List String)} {x : Node × List (List String)}
    (h : keys.foldlM (addChild build) (.map cs, lists) = .ok x) :
    ∃ cs', x.1 = .map cs' ∧
      (∀ k ∈ keys, ∃ y, build k = .ok y ∧ Keyed.get? k cs' = some y.1) ∧
      ∀ k ∉ keys, Keyed.get? k cs' = Keyed.get? k cs := by
  induction keys generalizing cs lists with
  | nil =>
    obtain rfl := Except.ok.inj h
    exact ⟨cs, rfl, by simp, fun _ _ => rfl⟩
  | cons key keys ih =>
    rw [List.foldlM_cons, bind_eq_ok] at h
    obtain ⟨x', hx', h⟩ := h
    rw [addChild_map] at hx'
    cases hb : build key with
    | error e => rw [hb] at hx'; cases hx'
    | ok y =>
      rw [hb] at hx'
      obtain rfl := Except.ok.inj hx'
      obtain ⟨cs', hcs', hin, hout⟩ := ih h
      refine ⟨cs', hcs', fun k hk => ?_, fun k hk => ?_⟩
      · -- a key that comes again is built again, with the same outcome
        by_cases hmem : k ∈ keys
        · exact hin k hmem
        · obtain rfl : k = key := (List.mem_cons.1 hk).resolve_right hmem
          exact ⟨y, hb, by rw [hout k hmem, Keyed.get?_set, if_pos rfl]⟩
      · rw [List.mem_cons, not_or] at hk
        rw [hout k hk.2, Keyed.get?_set, if_neg (Ne.symm hk.1)]

end

/-- A tree can be built for a path if and only if there is a value, and it has the layers. -/
theorem nodeAt_ok_iff {levels : List String} :
    (∃ x, c.nodeAt levels path = .ok x) ↔
      (c.root.at? path).isSome = true ∧ c.Layered path levels.length := by
  rw [← shapeAt?_isSome]
  induction levels generalizing path with
  | nil =>
    rw [List.length_nil, layered_zero, nodeAt_nil]
    cases hs : c.shapeAt? path with
    | none => simp
    | some shape => cases shape <;> simp
  | cons level deeper ih =>
    rw [List.length_cons, layered_succ, nodeAt_cons]
    cases hs : c.shapeAt? path with
    | none => simp
    | some shape =>
      obtain ⟨v, hv, hvs⟩ := Option.map_eq_some_iff.1 hs
      cases shape with
      | table =>
        constructor
        · rintro ⟨x, hx⟩
          refine ⟨rfl, fun w hw => ?_, fun k => ?_⟩
          · rw [hv] at hw
            exact Option.some.inj hw ▸ hvs
          · by_cases hk : k ∈ c.keysAt path
            · obtain ⟨_, _, hin, -⟩ := foldlM_addChild_ok hx
              obtain ⟨y, hy, -⟩ := hin k hk
              exact (ih.1 ⟨y, hy⟩).2
            · rw [mem_keysAt_iff, Option.not_isSome_iff_eq_none] at hk
              exact layered_of_none hk
        · rintro ⟨-, -, hbelow⟩
          refine exists_foldlM_addChild fun k hk => ih.2 ⟨?_, hbelow k⟩
          rw [shapeAt?_isSome]
          exact mem_keysAt_iff.1 hk
      | list => simp [hv, hvs]
      | scalar => simp [hv, hvs]

/-- A tree is the image of what is configured at a path, `n` levels deep (module doc). -/
structure Mirrors (c : Config) (path : List String) (n : Nat) (root : Node) : Prop where
  walk_isSome : ∀ p, (root.walk p).isSome = (c.root.at? (path ++ p)).isSome
  map : ∀ p node, root.walk p = some node → p.length < n →
    ∃ cs, node = .map cs ∧ (Keyed.keys cs).Nodup ∧ ∀ k, k ∈ Keyed.keys cs ↔ k ∈ c.keysAt (path ++ p)
  list : ∀ p node, root.walk p = some node → p.length = n → node = .list (c.stringsAt (path ++ p))
  length_le : ∀ p node, root.walk p = some node → p.length ≤ n

theorem mirrors_list (h : (c.root.at? path).isSome = true) (hs : c.shapeAt? path ≠ some .table) :
    c.Mirrors path 0 (.list (c.stringsAt path)) := by
  have hbelow (k : String) (p : List String) : c.root.at? (path ++ k :: p) = none := by
    rw [← Option.not_isSome_iff_eq_none]
    intro hk
    have := mem_keysAt_of_below hk
    rw [keysAt_of_ne_table hs] at this
    cases this
  constructor
  · intro p
    cases p with
    | nil => simpa using h.symm
    | cons k p => rw [hbelow k p]; rfl
  · exact fun _ _ _ hp => nomatch hp
  · intro p node hw hp
    obtain rfl := List.length_eq_zero_iff.1 hp
    rw [List.append_nil]
    exact (Option.some.inj hw).symm
  · intro p node hw
    cases p with
    | nil => exact Nat.le_refl 0
    | cons k p => cases hw

theorem mirrors_map {n : Nat} {cs : List (String × Node)} (h : (c.root.at? path).isSome = true)
    (hd : (Keyed.keys cs).Nodup)
    (hin : ∀ k ∈ c.keysAt path, ∃ child, Keyed.get? k cs = some child ∧
      c.Mirrors (path ++ [k]) n child)
    (hout : ∀ k ∉ c.keysAt path, Keyed.get? k cs = none) : c.Mirrors path (n + 1) (.map cs) := by
  -- a step down along a key reaches the mirror of what is configured there
  have hstep {k : String} {p : List String} {node : Node}
      (hw : (Node.map cs).walk (k :: p) = some node) :
      ∃ child, c.Mirrors (path ++ [k]) n child ∧ child.walk p = some node := by
    obtain ⟨child, hget, hw⟩ := Option.bind_eq_some_iff.1 hw
    have hk : k ∈ c.keysAt path :=
      Classical.byContradiction fun hk => nomatch (hout k hk).symm.trans hget
    obtain ⟨child', hget', hm⟩ := hin k hk
    obtain rfl := Option.some.inj (hget.symm.trans hget')
    exact ⟨child, hm, hw⟩
  constructor
  · intro p
    cases p with
    | nil => simpa using h.symm
    | cons k p =>
      rw [Node.walk_cons, Node.child?]
      by_cases hk : k ∈ c.keysAt path
      · obtain ⟨child, hget, hm⟩ := hin k hk
        rw [hget, List.append_cons]
        exact hm.walk_isSome p
      · have hnone : c.root.at? (path ++ k :: p) = none :=
          Option.not_isSome_iff_eq_none.1 fun hs => hk (mem_keysAt_of_below hs)
        rw [hout k hk, hnone]
        rfl
  · intro p node hw hp
    cases p with
    | nil =>
      obtain rfl := Option.some.inj hw
      refine ⟨cs, rfl, hd, fun k => ?_⟩
      rw [List.append_nil, ← Keyed.isSome_get?_iff]
      by_cases hk : k ∈ c.keysAt path
      · obtain ⟨child, hget, -⟩ := hin k hk
        simp [hget, hk]
      · simp [hout k hk, hk]
    | cons k p =>
      obtain ⟨child, hm, hw⟩ := hstep hw
      rw [List.append_cons]
      exact hm.map p node hw (Nat.lt_of_succ_lt_succ hp)
  · intro p node hw hp
    cases p with
    | nil => cases hp
    | cons k p =>
      obtain ⟨child, hm, hw⟩ := hstep hw
      rw [List.append_cons]
      exact hm.list p node hw (Nat.succ.inj hp)
  · intro p node hw
    cases p with
    | nil => exact Nat.zero_le _
    | cons k p =>
      obtain ⟨child, hm, hw⟩ := hstep hw
      exact Nat.succ_le_succ (hm.length_le p node hw)

theorem Mirrors.ne_undefined {n : Nat} {root node : Node} {p : List String}
    (h : c.Mirrors path n root) (hw : root.walk p = some node) : node ≠ .undefined := by
  rcases Nat.lt_or_eq_of_le (h.length_le p node hw) with hp | hp
  · obtain ⟨cs, rfl, -⟩ := h.map p node hw hp
    exact nofun
  · rw [h.list p node hw hp]
    exact nofun

theorem Mirrors.length_of_list {n : Nat} {root : Node} {p es : List String}
    (h : c.Mirrors path n root) (hw : root.walk p = some (.list es)) : p.length = n := by
  rcases Nat.lt_or_eq_of_le (h.length_le p _ hw) with hp | hp
  · obtain ⟨cs, hcs, -⟩ := h.map p _ hw hp
    cases hcs
  · exact hp

theorem Mirrors.walk_list {n : Nat} {root : Node} {p : List String} (h : c.Mirrors path n root)
    (hp : p.length = n) (hv : (c.root.at? (path ++ p)).isSome = true) :
    root.walk p = some (.list (c.stringsAt (path ++ p))) := by
  obtain ⟨node, hw⟩ := Option.isSome_iff_exists.1 ((h.walk_isSome p).trans hv)
  rw [hw, h.list p node hw hp]

/-- Paths lead to the texts that are configured at the declared depth. -/
theorem Mirrors.leadsTo_iff {n : Nat} {root : Node} {p : List String} {target : String}
    (h : c.Mirrors path n root) :
    root.LeadsTo p target ↔ p.length = n ∧ target ∈ c.stringsAt (path ++ p) := by
  constructor
  · rintro ⟨es, hw, ht⟩
    have hp := h.length_of_list hw
    obtain rfl := Node.list.inj (h.list p _ hw hp)
    exact ⟨hp, ht⟩
  · rintro ⟨hp, ht⟩
    refine ⟨_, h.walk_list hp ?_, ht⟩
    rw [stringsAt] at ht
    cases hv : c.root.at? (path ++ p) with
    | none => rw [hv] at ht; cases ht
    | some v => rfl

/-- The tree that is built for a path is the image of what is configured there. -/
theorem nodeAt_mirrors {levels : List String} {x : Node × List (List String)}
    (h : c.nodeAt levels path = .ok x) : c.Mirrors path levels.length x.1 := by
  induction levels generalizing path x with
  | nil =>
    obtain ⟨hsome, hlayers⟩ := nodeAt_ok_iff.1 ⟨x, h⟩
    have hs := layered_zero.1 hlayers
    rw [nodeAt_nil] at h
    split at h
    · cases h
    · cases h
    · obtain rfl := Except.ok.inj h
      exact mirrors_list hsome hs
  | cons level deeper ih =>
    have hsome := (nodeAt_ok_iff.1 ⟨x, h⟩).1
    have hd : x.1.Distinct := nodeAt_distinct h
    rw [nodeAt_cons] at h
    split at h
    · cases h
    · obtain ⟨cs, hcs, hin, hout⟩ := foldlM_addChild_ok h
      rw [hcs] at hd ⊢
      refine mirrors_map hsome (Node.distinct_map_iff.1 hd).1 (fun k hk => ?_) hout
      obtain ⟨y, hy, hget⟩ := hin k hk
      exact ⟨y.1, hget, ih hy⟩
    · cases h

/-! ## Building -/

section
variable {vendor : String} (hdot : '.' ∉ vendor.toList)
include hdot

/-- A vendor with servers is one that the configuration has. -/
theorem mem_of_servers (h : (c.root.at? [vendor, "servers"]).isSome = true) :
    c.mem vendor = true := by
  unfold mem get?
  by_cases hne : vendor = ""
  · subst hne
    rfl
  · rw [segments_of_ne_empty hne, dottedKeys_of_not_mem hdot]
    have hsplit : [vendor, "servers"] = [vendor] ++ ["servers"] := rfl
    rw [hsplit, Value.at?_append] at h
    cases hv : c.root.at? [vendor] with
    | none => simp [hv] at h
    | some v => rfl

/-- Planning a directory is to check what is there and then to build the tree below the servers. -/
theorem plan_eq : c.plan vendor =
    if (c.root.at? [vendor, "servers"]).isSome = true then
      if maxLevels < (c.strings (vendor ++ ".levels")).length then
        .error (.config (.unsupportedDepth vendor (c.strings (vendor ++ ".levels")).length))
      else (c.nodeAt (c.strings (vendor ++ ".levels")) [vendor, "servers"]).map fun x =>
        ⟨c.strings (vendor ++ ".levels"), c.flag (vendor ++ ".resolve_servers"), x.1, x.2⟩
    else if c.mem vendor = true then .error (.config (.missing (vendor ++ ".servers")))
    else .error (.config (.unknownVendor vendor)) := by
  have hmem : c.mem (vendor ++ ".servers") = (c.root.at? [vendor, "servers"]).isSome := by
    rw [mem, get?_servers, dottedKeys_of_not_mem hdot]
    rfl
  rw [plan_checks, hmem]
  by_cases hs : (c.root.at? [vendor, "servers"]).isSome = true
  · rw [mem_of_servers hdot hs, if_pos rfl, if_pos hs, if_pos hs]
  · rw [if_neg hs, if_neg hs]

theorem plan_ok_iff {p : Plan} :
    c.plan vendor = .ok p ↔
      (c.root.at? [vendor, "servers"]).isSome = true ∧
      (c.strings (vendor ++ ".levels")).length ≤ maxLevels ∧
      ∃ x, c.nodeAt (c.strings (vendor ++ ".levels")) [vendor, "servers"] = .ok x ∧
        p = ⟨c.strings (vendor ++ ".levels"), c.flag (vendor ++ ".resolve_servers"), x.1, x.2⟩ := by
  rw [plan_eq hdot]
  by_cases hs : (c.root.at? [vendor, "servers"]).isSome = true
  · rw [if_pos hs]
    by_cases hl : maxLevels < (c.strings (vendor ++ ".levels")).length
    · rw [if_pos hl]
      exact ⟨nofun, fun h => absurd hl (Nat.not_lt.2 h.2.1)⟩
    · rw [if_neg hl]
      cases c.nodeAt (c.strings (vendor ++ ".levels")) [vendor, "servers"] <;>
        simp [Except.map, hs, Nat.not_lt.1 hl, eq_comm]
  · rw [if_neg hs]
    refine ⟨fun h => ?_, fun h => absurd h.1 hs⟩
    split at h <;> cases h

section
variable {r : Resolver} (hoff : c.flag (vendor ++ ".resolve_servers") = false)
include hoff

omit hdot in
/-- Without resolution the tree below the servers is the directory. -/
theorem build_of_unresolved :
    (c.build r vendor).value =
      (c.plan vendor).map fun p => { name := vendor, levels := p.levels, root := p.root } := by
  rw [build_value]
  cases hp : c.plan vendor with
  | error e => rfl
  | ok p =>
    obtain ⟨x, -, rfl⟩ := plan_ok hp
    simp only [Plan.settle, hoff]
    rfl

theorem build_unresolved_ok_iff {d : Directory} :
    (c.build r vendor).value = .ok d ↔
      (c.root.at? [vendor, "servers"]).isSome = true ∧
      (c.strings (vendor ++ ".levels")).length ≤ maxLevels ∧
      ∃ x, c.nodeAt (c.strings (vendor ++ ".levels")) [vendor, "servers"] = .ok x ∧
        d = { name := vendor, levels := c.strings (vendor ++ ".levels"), root := x.1 } := by
  rw [build_of_unresolved hoff]
  constructor
  · intro h
    cases hp : c.plan vendor with
    | error e => rw [hp] at h; cases h
    | ok p =>
      rw [hp] at h
      obtain ⟨hs, hl, x, hx, rfl⟩ := (plan_ok_iff hdot).1 hp
      exact ⟨hs, hl, x, hx, (Except.ok.inj h).symm⟩
  · rintro ⟨hs, hl, x, hx, rfl⟩
    rw [(plan_ok_iff hdot).2 ⟨hs, hl, x, hx, rfl⟩]
    rfl

/-- A directory whose servers are not resolved is built if and only if the vendor has servers, in at
most as many layers as are supported and just those declared. It is then the image of what is
configured: there is nothing undefined in it, and all its lists are at the declared depth. -/
theorem build_mirrors :
    ((∃ d, (c.build r vendor).value = .ok d) ↔
      (c.root.at? [vendor, "servers"]).isSome = true ∧
      (c.strings (vendor ++ ".levels")).length ≤ 5 ∧
      c.Layered [vendor, "servers"] (c.strings (vendor ++ ".levels")).length) ∧
    ∀ d, (c.build r vendor).value = .ok d →
      c.Mirrors [vendor, "servers"] (c.strings (vendor ++ ".levels")).length d.root ∧
      ∀ p node, d.root.walk p = some node → node ≠ .undefined ∧
        ∀ es, node = .list es → p.length = (c.strings (vendor ++ ".levels")).length := by
  refine ⟨⟨?_, ?_⟩, fun d hd => ?_⟩
  · rintro ⟨d, hd⟩
    obtain ⟨hs, hl, x, hx, -⟩ := (build_unresolved_ok_iff hdot hoff).1 hd
    exact ⟨hs, hl, (nodeAt_ok_iff.1 ⟨x, hx⟩).2⟩
  · rintro ⟨hs, hl, hlayers⟩
    obtain ⟨x, hx⟩ := nodeAt_ok_iff.2 ⟨hs, hlayers⟩
    exact ⟨_, (build_unresolved_ok_iff hdot hoff).2 ⟨hs, hl, x, hx, rfl⟩⟩
  · obtain ⟨-, -, x, hx, rfl⟩ := (build_unresolved_ok_iff hdot hoff).1 hd
    have hm := nodeAt_mirrors hx
    refine ⟨hm, fun p node hw => ⟨hm.ne_undefined hw, ?_⟩⟩
    rintro es rfl
    exact hm.length_of_list hw

end

end

/-- Two levels, with a key that has a dot, a list in which a server comes twice, and a server that
is not in a list. -/
def sampleServers : Config :=
  ⟨.table [("acme", .table [("levels", .list [.text "region", .text "city"]),
    ("servers", .table [("us", .table [("Reno", .text "c"),
      ("St. Louis", .list [.text "b", .text "a", .text "b"])])])])]⟩

theorem build_mirrors_sample :
    '.' ∉ "acme".toList ∧ sampleServers.flag ("acme" ++ ".resolve_servers") = false ∧
      ∃ d, (sampleServers.build Resolver.addressesOnly "acme").value = .ok d ∧
        d.root.walk ["us", "St. Louis"] = some (.list ["b", "a", "b"]) := by
  have hdot : '.' ∉ "acme".toList := by decide
  have hoff : sampleServers.flag ("acme" ++ ".resolve_servers") = false := by decide +kernel
  refine ⟨hdot, hoff, _, rfl, ?_⟩
  have hm := ((build_mirrors hdot hoff (r := Resolver.addressesOnly)).2 _ rfl).1
  have hvalue : (sampleServers.root.at? ["acme", "servers", "us", "St. Louis"]).isSome = true := by
    decide +kernel
  obtain ⟨node, hnode⟩ :=
    Option.isSome_iff_exists.1 ((hm.walk_isSome ["us", "St. Louis"]).trans hvalue)
  have htexts : sampleServers.stringsAt ["acme", "servers", "us", "St. Louis"] = ["b", "a", "b"] := by
    decide +kernel
  rw [hnode, hm.list _ node hnode (by decide +kernel)]
  exact congrArg (some ∘ Node.list) htexts

end Config

end Egress
