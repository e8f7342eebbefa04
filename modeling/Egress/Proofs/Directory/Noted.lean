import Egress.Proofs.Directory.Faults
import Egress.Proofs.Directory.Locality

/-!
# The lists noted while a tree is built

While a tree is built the paths of its lists are noted, and resolving goes to the noted paths one
after the other and writes another list there. The paths noted are those of the lists of the tree,
each once (`Node.HasLists`). Another list in the place of one leaves the kinds of all nodes as they
are (`Node.kind_walk_setList`), so the noted paths are those of the lists after every step
(`Resolver.resolveLists_kinds`), and each step finds the list it looks for. A build therefore never
fails in the ways it has for a tree that is not as it was built (`Config.build_keeps_noted`).
-/

set_option autoImplicit false

namespace Egress

open Document

namespace Node

/-- A path leads to a list. -/
def LeadsToList (n : Node) (path : List String) : Prop :=
  ∃ endpoints, n.walk path = some (.list endpoints)

/-- Some paths are those of the lists of a tree, each once. -/
structure HasLists (n : Node) (paths : List (List String)) : Prop where
  nodup : paths.Nodup
  mem_iff : ∀ p, p ∈ paths ↔ n.LeadsToList p

theorem leadsToList_iff {n : Node} {p : List String} :
    n.LeadsToList p ↔ (n.walk p).map kind = some .list := by
  rw [LeadsToList]
  cases n.walk p with
  | none => simp
  | some m => cases m <;> simp [kind]

/-- Where all kinds are the same, so are the paths of the lists. -/
theorem HasLists.of_kinds {n n' : Node} {paths : List (List String)} (h : n.HasLists paths)
    (hkinds : ∀ p, (n'.walk p).map kind = (n.walk p).map kind) : n'.HasLists paths where
  nodup := h.nodup
  mem_iff p := by rw [h.mem_iff, leadsToList_iff, leadsToList_iff, hkinds]

/-- Replacing a list by another can be done, and leaves all kinds as they were. -/
theorem kind_walk_setList {root : Node} {path : List String} (h : root.LeadsToList path)
    (es : List String) :
    ∃ root', root.update? (setList es) path = some (.ok root') ∧
      ∀ p, (root'.walk p).map kind = (root.walk p).map kind := by
  obtain ⟨old, hold⟩ := h
  refine ⟨replace path root (.list es), by rw [update?_eq, hold]; rfl, fun p => ?_⟩
  by_cases hbelow : path <+: p
  · obtain ⟨rest, rfl⟩ := hbelow
    rw [walk_replace_below hold, walk_append, hold, Option.bind_some]
    cases rest <;> rfl
  · by_cases habove : p <+: path
    · obtain ⟨rest, rfl⟩ := habove
      cases rest with
      | nil => exact absurd (by simp) hbelow
      | cons k rest =>
        rw [walk_replace_above, Option.map_map]
        exact congrArg (Option.map · _) (funext fun m => kind_replace_cons k rest m _)
    · rw [walk_replace_apart root _ hbelow habove]

end Node

/-- Resolving works where there are lists, and leaves all kinds as they were. -/
theorem Resolver.resolveLists_kinds {r : Resolver} {vendor : String} {paths : List (List String)}
    {root : Node} {known : Resolved} (h : ∀ p ∈ paths, root.LeadsToList p) :
    ∃ x asked, (r.resolveLists vendor paths root known).Gives x asked ∧
      ∀ p, (x.1.walk p).map Node.kind = (root.walk p).map Node.kind := by
  induction paths generalizing root known with
  | nil => exact ⟨(root, known), [], ⟨rfl, rfl⟩, fun _ => rfl⟩
  | cons path paths ih =>
    obtain ⟨hpath, hpaths⟩ := List.forall_mem_cons.1 h
    obtain ⟨old, hold⟩ := hpath
    obtain ⟨root₁, hroot₁, hkinds⟩ := Node.kind_walk_setList ⟨old, hold⟩ (r.addressList old)
    -- no kind has changed, so the paths still to come lead to lists in the new tree too
    have hrest : ∀ p ∈ paths, root₁.LeadsToList p := by
      intro p hp
      rw [Node.leadsToList_iff, hkinds, ← Node.leadsToList_iff]
      exact hpaths p hp
    obtain ⟨x, asked, hx, hkinds'⟩ := ih hrest
    exact ⟨x, _, resolveLists_cons_iff.2 ⟨_, root₁, asked, hold, hroot₁, hx, rfl⟩,
      fun p => (hkinds' p).trans (hkinds p)⟩

namespace Config

variable {c : Config} {r : Resolver} {vendor : String} {levels levels' path p : List String}

/-! ## Where a build comes to -/

/-- Building the tree at a path comes to another path, with these levels left. -/
inductive Visits (c : Config) (levels path : List String) : List String → List String → Prop
  | start : Visits c levels path levels path
  | down {level k : String} {deeper p : List String} (h : Visits c levels path (level :: deeper) p)
      (hk : k ∈ c.keysAt p) : Visits c levels path deeper (p ++ [k])

/-- There is a value wherever a build comes to. -/
theorem Visits.isSome (h : c.Visits levels path levels' p)
    (hv : (c.root.at? path).isSome = true) : (c.root.at? p).isSome = true := by
  cases h with
  | start => exact hv
  | down _ hk => exact mem_keysAt_iff.1 hk

/-- What is out of place is a table or stands where a table should be. -/
theorem Misplaced.cases {f : ConfigError} (h : c.Misplaced path levels p f) :
    f = .tableForServers (path ++ p) ∨ ∃ level found, f = .noTableFor (path ++ p) level found := by
  rcases h with ⟨-, -, rfl⟩ | ⟨level, found, -, -, -, rfl⟩
  · exact .inl rfl
  · exact .inr ⟨level, found, rfl⟩

/-- Building a tree for a value fails only because something is out of place. -/
theorem nodeAt_error_cases (ho : c.root.Ordered) (hv : (c.root.at? path).isSome = true)
    {e : DirectoryError} (h : c.nodeAt levels path = .error e) :
    ∃ p, e = .config (.tableForServers p) ∨
      ∃ level found, e = .config (.noTableFor p level found) := by
  obtain ⟨p, f, rfl, hfirst⟩ := firstMisplaced_of_error ho hv h
  refine ⟨path ++ p, ?_⟩
  rcases hfirst.1.cases with rfl | ⟨level, found, rfl⟩
  · exact .inl rfl
  · exact .inr ⟨level, found, rfl⟩

/-! ## Building -/

theorem nodeAt_hasLists (ho : c.root.Ordered) {x : Node × List (List String)}
    (h : c.nodeAt levels [vendor, "servers"] = .ok x) : x.1.HasLists x.2 := by
  obtain ⟨hleaves, -⟩ := nodeAt_leaves ho h
  refine ⟨hleaves.ascending.imp fun hlt => ?_, hleaves.mem_iff⟩
  rintro rfl
  exact List.lt_irrefl _ hlt

theorem plan_hasLists (ho : c.root.Ordered) {plan : Plan} (h : c.plan vendor = .ok plan) :
    plan.root.HasLists plan.lists := by
  obtain ⟨x, hx, rfl⟩ := plan_ok h
  exact nodeAt_hasLists ho hx

/-- A plan fails with what the configuration lacks or has in the wrong place. -/
theorem plan_error_cases (ho : c.root.Ordered) (hdot : '.' ∉ vendor.toList) {e : DirectoryError}
    (h : c.plan vendor = .error e) :
    (∀ conflict, e ≠ .conflict conflict) ∧ ∀ name p, e ≠ .config (.lostLeaf name p) := by
  rw [plan_eq hdot] at h
  split at h
  · rename_i hservers
    split at h
    · obtain rfl := Except.error.inj h
      exact ⟨nofun, nofun⟩
    · obtain ⟨p, rfl | ⟨level, found, rfl⟩⟩ := nodeAt_error_cases ho hservers (map_eq_error.1 h)
      · exact ⟨nofun, nofun⟩
      · exact ⟨nofun, nofun⟩
  · split at h
    · obtain rfl := Except.error.inj h
      exact ⟨nofun, nofun⟩
    · obtain rfl := Except.error.inj h
      exact ⟨nofun, nofun⟩

/-- Resolving any of the noted lists, from the first on, works, and the noted paths are then still
those of the lists. -/
theorem resolveLists_hasLists (ho : c.root.Ordered) {plan : Plan} (h : c.plan vendor = .ok plan)
    {before after : List (List String)} (hsplit : plan.lists = before ++ after) (known : Resolved) :
    ∃ x, (r.resolveLists vendor before plan.root known).value = .ok x ∧
      x.1.HasLists plan.lists := by
  have hlists := plan_hasLists ho h
  have hbefore : ∀ p ∈ before, plan.root.LeadsToList p := fun p hp =>
    (hlists.mem_iff p).1 (hsplit ▸ List.mem_append_left after hp)
  obtain ⟨x, -, ⟨hx, -⟩, hkinds⟩ := Resolver.resolveLists_kinds hbefore
  exact ⟨x, hx, hlists.of_kinds hkinds⟩

/-- What is planned can be settled, and the noted paths are those of the lists of the outcome. -/
theorem settle_hasLists (ho : c.root.Ordered) {plan : Plan} (h : c.plan vendor = .ok plan) :
    ∃ x, (plan.settle r vendor).value = .ok x ∧ x.1.HasLists plan.lists := by
  rw [Plan.settle]
  split
  · exact resolveLists_hasLists ho h (List.append_nil _).symm []
  · exact ⟨(plan.root, []), rfl, plan_hasLists ho h⟩

/-- A build never fails because of a conflict between writes or because a list it noted is not where
it was, and nowhere below the servers does it miss a value. What it has planned it builds; the paths
noted are those of the lists of the planned tree, each once, and so they are after every step of
resolving and in the directory. -/
theorem build_keeps_noted (ho : c.root.Ordered) (hdot : '.' ∉ vendor.toList) :
    (∀ e, (c.build r vendor).value = .error e →
      (∀ conflict, e ≠ .conflict conflict) ∧ ∀ name p, e ≠ .config (.lostLeaf name p)) ∧
    ((c.root.at? [vendor, "servers"]).isSome = true →
      ∀ levels levels' p, c.Visits levels [vendor, "servers"] levels' p →
        (c.root.at? p).isSome = true ∧
        ∀ missing, c.nodeAt levels' p ≠ .error (.config (.missing missing))) ∧
    (∀ plan, c.plan vendor = .ok plan → plan.root.HasLists plan.lists ∧
      (∀ before after known, plan.lists = before ++ after →
        ∃ x, (r.resolveLists vendor before plan.root known).value = .ok x ∧
          x.1.HasLists plan.lists) ∧
      ∃ d, (c.build r vendor).value = .ok d ∧ d.root.HasLists plan.lists) ∧
    ∀ d, (c.build r vendor).value = .ok d →
      ∃ plan, c.plan vendor = .ok plan ∧ d.root.HasLists plan.lists := by
  have hplanned (plan : Plan) (h : c.plan vendor = .ok plan) :
      ∃ d, (c.build r vendor).value = .ok d ∧ d.root.HasLists plan.lists := by
    obtain ⟨x, hx, hlists⟩ := settle_hasLists (r := r) ho h
    refine ⟨{ name := vendor, levels := plan.levels, resolve := plan.resolve, root := x.1,
              resolved := x.2 }, ?_, hlists⟩
    rw [build_value, h]
    exact map_eq_ok.2 ⟨x, hx, rfl⟩
  refine ⟨fun e he => ?_, fun hservers levels levels' p hp => ?_, fun plan h => ?_, fun d hd => ?_⟩
  · exact plan_error_cases ho hdot ((build_error_iff ho).1 he)
  · have hv := hp.isSome hservers
    refine ⟨hv, fun missing he => ?_⟩
    obtain ⟨q, hq | ⟨level, found, hq⟩⟩ := nodeAt_error_cases ho hv he
    · cases hq
    · cases hq
  · exact ⟨plan_hasLists ho h, fun before after known hsplit =>
      resolveLists_hasLists ho h hsplit known, hplanned plan h⟩
  · obtain ⟨plan, -, h, -, -⟩ := build_ok hd
    obtain ⟨d', hd', hlists⟩ := hplanned plan h
    obtain rfl := Except.ok.inj (hd.symm.trans hd')
    exact ⟨plan, h, hlists⟩

theorem build_keeps_noted_sample :
    (sampleLeaves true).root.Ordered ∧ '.' ∉ "acme".toList ∧
    (∃ plan, (sampleLeaves true).plan "acme" = .ok plan ∧ plan.lists = [["eu"], ["us"]] ∧
      ∃ x, (sampleHosts.resolveLists "acme" [["eu"]] plan.root []).value = .ok x ∧
        x.1.HasLists [["eu"], ["us"]]) ∧
    ∃ d, ((sampleLeaves true).build sampleHosts "acme").value = .ok d ∧
      d.root.HasLists [["eu"], ["us"]] := by
  have ho := sampleLeaves_ordered
  have hdot : '.' ∉ "acme".toList := by decide
  obtain ⟨-, -, hplanned, hbuilt⟩ := build_keeps_noted ho hdot (r := sampleHosts)
  obtain ⟨-, hsteps, -⟩ := hplanned _ rfl
  obtain ⟨plan, hplan, hlists⟩ := hbuilt _ rfl
  obtain rfl := Except.ok.inj hplan
  exact ⟨ho, hdot, ⟨_, rfl, rfl, hsteps [["eu"]] [["us"]] [] rfl⟩, _, rfl, hlists⟩

end Config

end Egress
