import Egress.Proofs.Directory.Leaves

/-!
# The fault a build reports

Below the servers of a vendor a build follows the keys in order and goes down before it goes on, so
it comes to the values in the order of their paths, and it stops at the first that is out of place
(`Config.FirstMisplaced`): a table at the declared depth, or something else above it. Together with
the three things that are checked before, this says for every configuration whether a build fails
and with what (`Config.build_fault_iff`). A build that fails has asked nobody anything.
-/

set_option autoImplicit false

namespace Egress

open Document

namespace Config

variable {c : Config} {r : Resolver} {vendor : String} {levels path p q : List String}
  {f g : ConfigError}

/-! ## Values out of place -/

/-- The value at a path below `base` is not what the levels declared there want, and this is the
fault to report. -/
def Misplaced (c : Config) (base levels p : List String) (f : ConfigError) : Prop :=
  (p.length = levels.length ∧ c.shapeAt? (base ++ p) = some .table ∧
    f = .tableForServers (base ++ p)) ∨
  ∃ level found, levels[p.length]? = some level ∧ c.shapeAt? (base ++ p) = some found ∧
    found ≠ .table ∧ f = .noTableFor (base ++ p) level found

/-- The value out of place that comes first when tables are visited depth first, in order of their
keys: no other has a path before its own. A path stands before those that it begins. -/
def FirstMisplaced (c : Config) (base levels p : List String) (f : ConfigError) : Prop :=
  c.Misplaced base levels p f ∧ ∀ q g, c.Misplaced base levels q g → ¬ q < p

theorem misplaced_cons_iff {level k : String} {deeper : List String} :
    c.Misplaced path (level :: deeper) (k :: p) f ↔ c.Misplaced (path ++ [k]) deeper p f := by
  simp [Misplaced]

theorem misplaced_nil_iff :
    c.Misplaced path [] p f ↔
      p = [] ∧ c.shapeAt? path = some .table ∧ f = .tableForServers path := by
  constructor
  · rintro (⟨hp, hs, rfl⟩ | ⟨level, found, hl, -⟩)
    · obtain rfl := List.length_eq_zero_iff.1 hp
      rw [List.append_nil] at hs ⊢
      exact ⟨rfl, hs, rfl⟩
    · cases hl
  · rintro ⟨rfl, hs, rfl⟩
    exact .inl ⟨rfl, by simpa using hs, by simp⟩

theorem misplaced_top_iff {level : String} {deeper : List String} :
    c.Misplaced path (level :: deeper) [] f ↔
      ∃ found, c.shapeAt? path = some found ∧ found ≠ .table ∧ f = .noTableFor path level found := by
  simp [Misplaced]

/-- Only below a table can there be anything out of place. -/
theorem Misplaced.mem_keysAt {level k : String} {deeper : List String}
    (h : c.Misplaced path (level :: deeper) (k :: p) f) : k ∈ c.keysAt path := by
  have hsome : (c.shapeAt? (path ++ k :: p)).isSome = true := by
    rcases h with ⟨-, hs, -⟩ | ⟨_, _, -, hs, -⟩ <;> rw [hs] <;> rfl
  rw [shapeAt?_isSome] at hsome
  exact mem_keysAt_of_below hsome

theorem Misplaced.fault_eq (h : c.Misplaced path levels p f) (h' : c.Misplaced path levels p g) :
    f = g := by
  rcases h with ⟨hp, hs, rfl⟩ | ⟨level, found, hl, hs, hne, rfl⟩ <;>
    rcases h' with ⟨hp', hs', rfl⟩ | ⟨level', found', hl', hs', hne', rfl⟩
  · rfl
  · exact absurd (Option.some.inj (hs'.symm.trans hs)) hne'
  · exact absurd (Option.some.inj (hs.symm.trans hs')) hne
  · obtain rfl := Option.some.inj (hl.symm.trans hl')
    obtain rfl := Option.some.inj (hs.symm.trans hs')
    rfl

theorem FirstMisplaced.unique (h : c.FirstMisplaced path levels p f)
    (h' : c.FirstMisplaced path levels q g) : f = g := by
  obtain rfl := List.le_antisymm (List.not_lt.1 (h.2 q g h'.1)) (List.not_lt.1 (h'.2 p f h.1))
  exact h.1.fault_eq h'.1

/-- The wording of the fault has the path with dots between its keys. -/
theorem Misplaced.message (h : c.Misplaced path levels p f) :
    (p.length = levels.length ∧ f.message = "Invalid config: " ++ ".".intercalate (path ++ p)
      ++ ": expected a server list, found a table") ∨
    ∃ level found, levels[p.length]? = some level ∧ c.shapeAt? (path ++ p) = some found ∧
      f.message = "Invalid config: " ++ ".".intercalate (path ++ p) ++ ": expected a table of "
        ++ level ++ ", found a " ++ found.label := by
  rcases h with ⟨hp, -, rfl⟩ | ⟨level, found, hl, hs, -, rfl⟩
  · exact .inl ⟨hp, rfl⟩
  · exact .inr ⟨level, found, hl, hs, rfl⟩

/-! ## The first fault of a tree -/

theorem not_misplaced_of_ok {x : Node × List (List String)} (h : c.nodeAt levels path = .ok x) :
    ¬ c.Misplaced path levels p f := by
  have hlayers := (nodeAt_ok_iff.1 ⟨x, h⟩).2
  rintro (⟨hp, hs, -⟩ | ⟨level, found, hl, hs, hne, -⟩)
  · obtain ⟨v, hv, hvs⟩ := Option.map_eq_some_iff.1 hs
    exact (hlayers p v hv).2 hp hvs
  · obtain ⟨v, hv, rfl⟩ := Option.map_eq_some_iff.1 hs
    exact hne ((hlayers p v hv).1 (List.getElem?_eq_some_iff.1 hl).1)

/-- Children are added up to the first that cannot be built. -/
theorem foldlM_addChild_error
    {build : String → Except DirectoryError (Node × List (List String))} {keys : List String}
    {cs : List (String × Node)} {lists : List (List String)} {e : DirectoryError}
    (h : keys.foldlM (addChild build) (.map cs, lists) = .error e) :
    ∃ before k after, keys = before ++ k :: after ∧ (∀ k' ∈ before, ∃ y, build k' = .ok y) ∧
      build k = .error e := by
  obtain ⟨before, k, after, ⟨node, lists'⟩, rfl, hbefore, hk⟩ := foldlM_eq_error h
  obtain ⟨cs', hcs', hin, -⟩ := foldlM_addChild_ok hbefore
  obtain rfl : node = .map cs' := hcs'
  rw [addChild_map] at hk
  refine ⟨before, k, after, rfl, fun k' hk' => ?_, map_eq_error.1 hk⟩
  obtain ⟨y, hy, -⟩ := hin k' hk'
  exact ⟨y, hy⟩

/-- What comes first below the first key with anything out of place below it comes first of all. -/
theorem FirstMisplaced.cons {level k : String} {deeper before after : List String}
    (ho : c.root.Ordered) (hs : c.shapeAt? path = some .table)
    (hkeys : c.keysAt path = before ++ k :: after)
    (hbefore : ∀ k' ∈ before, ∀ q g, ¬ c.Misplaced (path ++ [k']) deeper q g)
    (h : c.FirstMisplaced (path ++ [k]) deeper p f) :
    c.FirstMisplaced path (level :: deeper) (k :: p) f := by
  obtain ⟨hp, hfirst⟩ := h
  refine ⟨misplaced_cons_iff.2 hp, fun q g hq => ?_⟩
  cases q with
  | nil =>
    obtain ⟨found, hfound, hne, -⟩ := misplaced_top_iff.1 hq
    exact absurd (Option.some.inj (hfound.symm.trans hs)) hne
  | cons k' q =>
    have hmem := hq.mem_keysAt
    have hasc : (c.keysAt path).Pairwise (· < ·) := keysAt_ascending ho
    rw [misplaced_cons_iff] at hq
    rw [hkeys] at hmem hasc
    -- a key before `k` has nothing out of place below it, and those behind are greater
    rcases List.mem_append.1 hmem with hmem | hmem
    · exact absurd hq (hbefore k' hmem q g)
    · rcases List.mem_cons.1 hmem with rfl | hmem
      · rw [List.cons_lt_cons_iff]
        rintro (hlt | ⟨-, hlt⟩)
        · exact String.lt_irrefl k' hlt
        · exact hfirst q g hq hlt
      · have hlt : k < k' := (List.pairwise_cons.1 (List.pairwise_append.1 hasc).2.1).1 k' hmem
        exact List.lt_asymm (List.cons_lt_cons_iff.2 (.inl hlt))

/-- A tree that cannot be built for a value fails for the first that is out of place. -/
theorem firstMisplaced_of_error (ho : c.root.Ordered) {e : DirectoryError}
    (hv : (c.root.at? path).isSome = true) (h : c.nodeAt levels path = .error e) :
    ∃ p f, e = .config f ∧ c.FirstMisplaced path levels p f := by
  rw [← shapeAt?_isSome] at hv
  induction levels generalizing path with
  | nil =>
    rw [nodeAt_nil] at h
    split at h
    · rename_i hs
      rw [hs] at hv
      cases hv
    · rename_i hs
      obtain rfl := Except.error.inj h
      refine ⟨[], _, rfl, misplaced_nil_iff.2 ⟨rfl, hs, rfl⟩, fun q g hq => ?_⟩
      rw [(misplaced_nil_iff.1 hq).1]
      exact List.lt_irrefl _
    · cases h
  | cons level deeper ih =>
    rw [nodeAt_cons] at h
    split at h
    · rename_i hs
      rw [hs] at hv
      cases hv
    · rename_i hs
      obtain ⟨before, k, after, hkeys, hbefore, hk⟩ := foldlM_addChild_error h
      have hkv : (c.shapeAt? (path ++ [k])).isSome = true := by
        rw [shapeAt?_isSome, ← mem_keysAt_iff, hkeys]
        simp
      obtain ⟨p, f, rfl, hfirst⟩ := ih hkv hk
      refine ⟨k :: p, f, rfl, hfirst.cons ho hs hkeys fun k' hk' q g => ?_⟩
      obtain ⟨y, hy⟩ := hbefore k' hk'
      exact not_misplaced_of_ok hy
    · rename_i found hne hs
      obtain rfl := Except.error.inj h
      refine ⟨[], _, rfl, misplaced_top_iff.2 ⟨found, hs, by simpa using hne, rfl⟩,
        fun q g hq => List.not_lt_nil q⟩

theorem nodeAt_error_iff (ho : c.root.Ordered) {e : DirectoryError}
    (hv : (c.root.at? path).isSome = true) :
    c.nodeAt levels path = .error e ↔ ∃ p f, e = .config f ∧ c.FirstMisplaced path levels p f := by
  refine ⟨firstMisplaced_of_error ho hv, ?_⟩
  rintro ⟨p, f, rfl, hfirst⟩
  cases hn : c.nodeAt levels path with
  | ok x => exact absurd hfirst.1 (not_misplaced_of_ok hn)
  | error e =>
    obtain ⟨q, g, rfl, hfirst'⟩ := firstMisplaced_of_error ho hv hn
    rw [hfirst.unique hfirst']

/-! ## The fault of a build -/

theorem build_error_iff (ho : c.root.Ordered) {e : DirectoryError} :
    (c.build r vendor).value = .error e ↔ c.plan vendor = .error e := by
  cases hon : c.flag (vendor ++ ".resolve_servers") with
  | true => rw [build_of_resolved ho hon, map_eq_error]
  | false => rw [build_of_unresolved hon, map_eq_error]

/-- What is wrong with the configuration of a vendor, the first of these that applies. -/
inductive BuildFault (c : Config) (vendor : String) : ConfigError → Prop
  | unknown : c.root.child? vendor = none → BuildFault c vendor (.unknownVendor vendor)
  | missing : (c.root.child? vendor).isSome = true → c.root.at? [vendor, "servers"] = none →
      BuildFault c vendor (.missing (vendor ++ ".servers"))
  | tooDeep : (c.root.at? [vendor, "servers"]).isSome = true →
      5 < (c.strings (vendor ++ ".levels")).length →
      BuildFault c vendor (.unsupportedDepth vendor (c.strings (vendor ++ ".levels")).length)
  | misplaced {p : List String} {f : ConfigError} :
      (c.root.at? [vendor, "servers"]).isSome = true →
      (c.strings (vendor ++ ".levels")).length ≤ 5 →
      c.FirstMisplaced [vendor, "servers"] (c.strings (vendor ++ ".levels")) p f → BuildFault c vendor f

section
variable (ho : c.root.Ordered) (hne : vendor ≠ "") (hdot : '.' ∉ vendor.toList)
include ho hne hdot

omit ho in
theorem mem_vendor : c.mem vendor = (c.root.child? vendor).isSome := by
  rw [mem, get?, segments_of_ne_empty hne, dottedKeys_of_not_mem hdot, Value.at?_singleton]

theorem BuildFault.plan_eq_error (h : c.BuildFault vendor f) : c.plan vendor = .error (.config f) := by
  rw [plan_eq hdot]
  cases h with
  | unknown hnone =>
    have hservers : ¬ (c.root.at? [vendor, "servers"]).isSome = true := by
      rw [Value.at?_cons, hnone]
      simp
    have hvendor : ¬ c.mem vendor = true := by
      rw [mem_vendor hne hdot, hnone]
      simp
    rw [if_neg hservers, if_neg hvendor]
  | missing hchild hnone =>
    have hservers : ¬ (c.root.at? [vendor, "servers"]).isSome = true := by
      rw [hnone]
      simp
    rw [if_neg hservers, mem_vendor hne hdot, if_pos hchild]
  | tooDeep hservers hdepth =>
    rw [if_pos hservers]
    exact if_pos hdepth
  | misplaced hservers hdepth hfirst =>
    have hle : ¬ maxLevels < (c.strings (vendor ++ ".levels")).length := Nat.not_lt.2 hdepth
    rw [if_pos hservers, if_neg hle, map_eq_error, nodeAt_error_iff ho hservers]
    exact ⟨_, f, rfl, hfirst⟩

theorem fault_of_plan_error {e : DirectoryError} (h : c.plan vendor = .error e) :
    ∃ f, e = .config f ∧ c.BuildFault vendor f := by
  rw [plan_eq hdot] at h
  split at h
  · rename_i hservers
    split at h
    · rename_i hdepth
      obtain rfl := Except.error.inj h
      exact ⟨_, rfl, .tooDeep hservers hdepth⟩
    · rename_i hdepth
      rw [map_eq_error, nodeAt_error_iff ho hservers] at h
      obtain ⟨p, f, rfl, hfirst⟩ := h
      exact ⟨f, rfl, .misplaced hservers (Nat.not_lt.1 hdepth) hfirst⟩
  · rename_i hservers
    rw [Option.not_isSome_iff_eq_none] at hservers
    rw [mem_vendor hne hdot] at h
    split at h
    · rename_i hchild
      obtain rfl := Except.error.inj h
      exact ⟨_, rfl, .missing hchild hservers⟩
    · rename_i hchild
      obtain rfl := Except.error.inj h
      exact ⟨_, rfl, .unknown (Option.not_isSome_iff_eq_none.1 hchild)⟩

theorem plan_error_iff {e : DirectoryError} :
    c.plan vendor = .error e ↔ ∃ f, e = .config f ∧ c.BuildFault vendor f := by
  refine ⟨fault_of_plan_error ho hne hdot, ?_⟩
  rintro ⟨f, rfl, hf⟩
  exact hf.plan_eq_error ho hne hdot

/-- A build fails just when something is wrong with the vendor's configuration, and reports the first
thing that is, whether servers are resolved or not. Of a value out of place it says where it is and
what was expected there. A build that fails has asked for no host. -/
theorem build_fault_iff :
    (∀ e, (c.build r vendor).value = .error e ↔ ∃ f, e = .config f ∧ c.BuildFault vendor f) ∧
    (∀ p f, c.FirstMisplaced [vendor, "servers"] (c.strings (vendor ++ ".levels")) p f →
      (p.length = (c.strings (vendor ++ ".levels")).length ∧
        f.message = "Invalid config: " ++ ".".intercalate ([vendor, "servers"] ++ p)
          ++ ": expected a server list, found a table") ∨
      ∃ level found, (c.strings (vendor ++ ".levels"))[p.length]? = some level ∧
        c.shapeAt? ([vendor, "servers"] ++ p) = some found ∧
        f.message = "Invalid config: " ++ ".".intercalate ([vendor, "servers"] ++ p)
          ++ ": expected a table of " ++ level ++ ", found a " ++ found.label) ∧
    ∀ e, (c.build r vendor).value = .error e → (c.build r vendor).asked = [] := by
  refine ⟨fun e => ?_, fun p f h => h.1.message, fun e he => ?_⟩
  · rw [build_error_iff ho, plan_error_iff ho hne hdot]
  · rw [build_error_iff ho] at he
    rw [asked_build, he]

end

/-- Two levels. Everything under the first key is in order; under the second there is a table below
the last level, and the third has a list in place of a table. -/
def sampleMisplaced : Config :=
  ⟨.table [("acme", .table [("levels", .list [.text "region", .text "city"]),
    ("resolve_servers", .boolean true),
    ("servers", .table [("eu", .table [("Paris", .list [.text "a.example.com"])]),
      ("uk", .table [("Bath", .text "b.example.com"), ("St. Ives", .table [])]),
      ("us", .list [.text "c.example.com"])])])]⟩

theorem build_fault_iff_sample :
    sampleMisplaced.root.Ordered ∧ "acme" ≠ "" ∧ '.' ∉ "acme".toList ∧
      ∃ f, (sampleMisplaced.build Resolver.addressesOnly "acme").value = .error (.config f) ∧
        sampleMisplaced.BuildFault "acme" f ∧
        f.message =
          "Invalid config: acme.servers.uk.St. Ives: expected a server list, found a table" ∧
        (sampleMisplaced.build Resolver.addressesOnly "acme").asked = [] := by
  have ho : sampleMisplaced.root.Ordered := by
    simp only [sampleMisplaced, Value.Ordered, OrderedEntries, OrderedItems]
    decide
  have hdot : '.' ∉ "acme".toList := by decide
  obtain ⟨hiff, -, hasked⟩ := build_fault_iff ho (by decide) hdot (r := Resolver.addressesOnly)
  have hb : (sampleMisplaced.build Resolver.addressesOnly "acme").value =
      .error (.config (.tableForServers ["acme", "servers", "uk", "St. Ives"])) := by rfl
  obtain ⟨f, hf, hfault⟩ := (hiff _).1 hb
  obtain rfl := DirectoryError.config.inj hf
  exact ⟨ho, by decide, hdot, _, hb, hfault, by decide +kernel, hasked _ hb⟩

end Config

end Egress
