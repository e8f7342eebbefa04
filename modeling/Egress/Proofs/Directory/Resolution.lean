import Egress.Proofs.Directory.Lists
import Egress.Proofs.Directory.Reading

/-!
# Resolved directories

Resolving replaces every list of a tree by the addresses of its identifiers, each once
(`Resolver.addressList`), and notes the addresses of every identifier that has any
(`Resolver.noted`). It goes list by list through the tree, changing one at a time; taken together it
is one change of all lists, and asks for the identifiers that are no addresses in their order
(`Resolver.resolveLists_listPaths`). So a directory with resolved servers is the one without, with
each of its lists changed that way (`Config.build_of_resolved`).
-/

set_option autoImplicit false

namespace Egress

theorem Report.value_foldlM {α σ : Type} (f : σ → α → Report σ) (l : List α) (s : σ) :
    (l.foldlM f s).value = l.foldl (fun s a => (f s a).value) s := by
  induction l generalizing s with
  | nil => rfl
  | cons a l ih => rw [List.foldlM_cons, Report.value_bind, ih, List.foldl_cons]

theorem Report.asked_foldlM {α σ : Type} (f : σ → α → Report σ) (asked : α → List String)
    (hf : ∀ s a, (f s a).asked = asked a) (l : List α) (s : σ) :
    (l.foldlM f s).asked = l.flatMap asked := by
  induction l generalizing s with
  | nil => rfl
  | cons a l ih => rw [List.foldlM_cons, Report.asked_bind, hf, ih, List.flatMap_cons]

/-- A report of success, on the way to which these hosts were asked for. -/
def Report.Gives {ε α : Type} (x : Report (Except ε α)) (a : α) (asked : List String) : Prop :=
  x.value = .ok a ∧ x.asked = asked

/-! ## Addresses of identifiers -/

theorem addNew_append (known as bs : List String) :
    addNew known (as ++ bs) = addNew (addNew known as) bs := by
  simp only [addNew, List.foldl_append]

theorem addNew_cons (known as : List String) (a : String) :
    addNew known (a :: as) = addNew (if a ∈ known then known else known ++ [a]) as := rfl

theorem mem_addNew {known as : List String} {a : String} :
    a ∈ addNew known as ↔ a ∈ known ∨ a ∈ as := by
  induction as generalizing known with
  | nil => simp [addNew]
  | cons b as ih =>
    rw [addNew_cons, ih]
    split
    · rename_i hb
      constructor
      · rintro (h | h)
        · exact .inl h
        · exact .inr (List.mem_cons_of_mem b h)
      · rintro (h | h)
        · exact .inl h
        · rcases List.mem_cons.1 h with rfl | h
          · exact .inl hb
          · exact .inr h
    · simp [or_assoc]

theorem nodup_addNew {known : List String} (as : List String) (h : known.Nodup) :
    (addNew known as).Nodup := by
  induction as generalizing known with
  | nil => exact h
  | cons a as ih =>
    rw [addNew_cons]
    refine ih ?_
    split
    · exact h
    · rename_i ha
      refine List.nodup_append.2 ⟨h, List.pairwise_singleton _ a, fun b hb c hc heq => ?_⟩
      rw [List.mem_singleton] at hc
      exact ha (hc ▸ heq ▸ hb)

/-- Addresses that are all new are put behind the others. -/
theorem addNew_eq_append {known as : List String} (h : (known ++ as).Nodup) :
    addNew known as = known ++ as := by
  induction as generalizing known with
  | nil => exact (List.append_nil known).symm
  | cons a as ih =>
    have ha : a ∉ known := fun hin => (List.nodup_append.1 h).2.2 a hin a List.mem_cons_self rfl
    have hsplit : known ++ a :: as = (known ++ [a]) ++ as := by simp
    rw [hsplit] at h ⊢
    rw [addNew_cons, if_neg ha, ih h]

namespace Resolver

variable {r : Resolver}

/-- The addresses of an identifier. -/
def addresses (r : Resolver) (identifier : String) : List String :=
  (r.resolve identifier).value

/-- The addresses of some identifiers, each once. -/
def addressList (r : Resolver) (identifiers : List String) : List String :=
  addNew [] (identifiers.flatMap r.addresses)

theorem mem_addressList {identifiers : List String} {address : String} :
    address ∈ r.addressList identifiers ↔ ∃ x ∈ identifiers, address ∈ r.addresses x := by
  simp [addressList, mem_addNew]

/-- What is known after some identifiers are noted with their addresses. -/
def noted (r : Resolver) (known : Resolved) (identifiers : List String) : Resolved :=
  identifiers.foldl (fun known x => keep known x (r.addresses x)) known

theorem noted_append (known : Resolved) (xs ys : List String) :
    r.noted known (xs ++ ys) = r.noted (r.noted known xs) ys := by
  simp only [noted, List.foldl_append]

theorem get?_keep {known : Resolved} {x y : String} {as : List String} :
    Keyed.get? x (keep known y as) = if y = x ∧ as ≠ [] then some as else Keyed.get? x known := by
  cases as with
  | nil => simp [keep]
  | cons a as => simp [keep, Keyed.get?_set]

theorem get?_noted {known : Resolved} {xs : List String} {x : String} :
    Keyed.get? x (r.noted known xs) =
      if x ∈ xs ∧ r.addresses x ≠ [] then some (r.addresses x) else Keyed.get? x known := by
  induction xs generalizing known with
  | nil => simp [noted]
  | cons y ys ih =>
    have hstep : r.noted known (y :: ys) = r.noted (keep known y (r.addresses y)) ys := rfl
    rw [hstep, ih, get?_keep]
    by_cases hyx : y = x
    · subst hyx
      by_cases hy : r.addresses y = [] <;> simp [hy]
    · simp [hyx, Ne.symm hyx]

theorem nodup_noted {known : Resolved} (h : (Keyed.keys known).Nodup) (xs : List String) :
    (Keyed.keys (r.noted known xs)).Nodup := by
  induction xs generalizing known with
  | nil => exact h
  | cons x xs ih =>
    refine ih ?_
    show (Keyed.keys (keep known x (r.addresses x))).Nodup
    rw [keep]
    split
    · exact h
    · exact Keyed.nodup_set _ h

/-- Noted are the identifiers that have addresses, with these. -/
theorem mem_noted_iff {xs : List String} {x : String} {as : List String} :
    (x, as) ∈ r.noted [] xs ↔ x ∈ xs ∧ as = r.addresses x ∧ as ≠ [] := by
  have hnodup : (Keyed.keys (r.noted [] xs)).Nodup := nodup_noted (by simp [Keyed.keys]) xs
  have hget : (x, as) ∈ r.noted [] xs ↔ Keyed.get? x (r.noted [] xs) = some as :=
    ⟨Keyed.get?_of_mem hnodup, Keyed.mem_of_get?⟩
  rw [hget, get?_noted]
  split
  · rename_i h
    constructor
    · intro has
      obtain rfl := Option.some.inj has
      exact ⟨h.1, rfl, h.2⟩
    · rintro ⟨-, rfl, -⟩
      rfl
  · rename_i h
    constructor
    · intro has
      cases has
    · rintro ⟨hx, rfl, hne⟩
      exact absurd ⟨hx, hne⟩ h

/-! ## Hosts that are asked for -/

/-- The hosts that are asked for some identifiers: those that are no addresses. -/
def hosts (identifiers : List String) : List String :=
  identifiers.filter fun x => !Address.isLiteral x

theorem asked_tryResolve (r : Resolver) (x : String) : (r.tryResolve x).asked = hosts [x] := by
  unfold tryResolve hosts
  cases hx : Address.isLiteral x with
  | true => simp [hx]
  | false =>
    simp only [Bool.false_eq_true, if_false, Report.asked_bind]
    cases (r.ask x).value <;> simp [hx, ask]

theorem asked_resolve (r : Resolver) (x : String) : (r.resolve x).asked = hosts [x] := by
  unfold resolve
  rw [Report.asked_bind, asked_tryResolve]
  -- what is done with the outcome asks for nothing
  cases (r.tryResolve x).value with
  | ok addresses => exact List.append_nil _
  | error e =>
    dsimp only
    split <;> exact List.append_nil _

theorem hosts_append (xs ys : List String) : hosts (xs ++ ys) = hosts xs ++ hosts ys :=
  List.filter_append xs ys

theorem hosts_eq_flatMap (xs : List String) : hosts xs = xs.flatMap fun x => hosts [x] := by
  induction xs with
  | nil => rfl
  | cons x xs ih => rw [List.flatMap_cons, ← ih, ← hosts_append, List.singleton_append]

/-! ## One list after the other -/

theorem value_resolveList (known : Resolved) (identifiers : List String) :
    (r.resolveList known identifiers).value =
      (r.addressList identifiers, r.noted known identifiers) := by
  have hfold (found : List String) (known : Resolved) (xs : List String) :
      xs.foldl (fun (s : List String × Resolved) x =>
        (addNew s.1 (r.addresses x), keep s.2 x (r.addresses x))) (found, known) =
        (addNew found (xs.flatMap r.addresses), r.noted known xs) := by
    induction xs generalizing found known with
    | nil => rfl
    | cons x xs ih => rw [List.foldl_cons, ih, List.flatMap_cons, addNew_append]; rfl
  rw [resolveList, Report.value_foldlM]
  exact hfold [] known identifiers

theorem asked_resolveList (known : Resolved) (identifiers : List String) :
    (r.resolveList known identifiers).asked = hosts identifiers := by
  rw [resolveList, hosts_eq_flatMap]
  refine Report.asked_foldlM _ _ (fun s x => ?_) _ _
  rw [Report.asked_bind, asked_resolve, Report.asked_pure, List.append_nil]

variable {vendor : String} {y : Node × Resolved} {asked asked' : List String}

/-- Resolving begins with the list at the first path. -/
theorem resolveLists_cons_iff {path : List String} {paths : List (List String)} {root : Node}
    {known : Resolved} :
    (r.resolveLists vendor (path :: paths) root known).Gives y asked ↔
      ∃ node root₁ rest, root.walk path = some node ∧
        Node.update? (Node.setList (r.addressList (node.endpoints?.getD []))) path root =
          some (.ok root₁) ∧
        (r.resolveLists vendor paths root₁ (r.noted known (node.endpoints?.getD []))).Gives y rest ∧
        asked = hosts (node.endpoints?.getD []) ++ rest := by
  rw [resolveLists]
  cases hwalk : root.walk path with
  | none => simp [Report.Gives]
  | some node =>
    simp only [Report.Gives, Report.value_bind, Report.asked_bind, value_resolveList,
      asked_resolveList]
    cases hupdate : Node.update? (Node.setList (r.addressList (node.endpoints?.getD []))) path root with
    | none => simp [hupdate]
    | some outcome =>
      cases outcome with
      | error e => simp [hupdate]
      | ok root₁ =>
        constructor
        · rintro ⟨hvalue, rfl⟩
          exact ⟨node, root₁, _, rfl, hupdate, ⟨hvalue, rfl⟩, rfl⟩
        · rintro ⟨node', root', rest, hnode, hroot, ⟨hvalue, rfl⟩, rfl⟩
          obtain rfl := Option.some.inj hnode
          rw [hupdate] at hroot
          obtain rfl := Except.ok.inj (Option.some.inj hroot)
          exact ⟨hvalue, rfl⟩

/-- Resolving the lists at some paths and then those at others is to resolve both. -/
theorem resolveLists_append {ps qs : List (List String)} {root root' : Node}
    {known known' : Resolved}
    (hps : (r.resolveLists vendor ps root known).Gives (root', known') asked)
    (hqs : (r.resolveLists vendor qs root' known').Gives y asked') :
    (r.resolveLists vendor (ps ++ qs) root known).Gives y (asked ++ asked') := by
  induction ps generalizing root known asked with
  | nil =>
    obtain ⟨hvalue, rfl⟩ := hps
    obtain ⟨rfl, rfl⟩ := Prod.mk.inj (Except.ok.inj hvalue)
    exact hqs
  | cons p ps ih =>
    obtain ⟨node, root₁, rest, hwalk, hupdate, hrest, rfl⟩ := resolveLists_cons_iff.1 hps
    exact resolveLists_cons_iff.2
      ⟨node, root₁, rest ++ asked', hwalk, hupdate, ih hrest, List.append_assoc _ _ _⟩

/-- Lists below a key of a map are resolved as those of the child under the key. -/
theorem resolveLists_below {k : String} {cs : List (String × Node)} {n n' : Node}
    {paths : List (List String)} {known known' : Resolved} (hn : Keyed.get? k cs = some n)
    (h : (r.resolveLists vendor paths n known).Gives (n', known') asked) :
    (r.resolveLists vendor (paths.map (k :: ·)) (.map cs) known).Gives
      (.map (Keyed.set k n' cs), known') asked := by
  induction paths generalizing cs n known asked with
  | nil =>
    obtain ⟨hvalue, rfl⟩ := h
    obtain ⟨rfl, rfl⟩ := Prod.mk.inj (Except.ok.inj hvalue)
    rw [Keyed.set_of_get? hn]
    exact ⟨rfl, rfl⟩
  | cons path paths ih =>
    obtain ⟨node, n₁, rest, hwalk, hupdate, hrest, rfl⟩ := resolveLists_cons_iff.1 h
    have hget : Keyed.get? k (Keyed.set k n₁ cs) = some n₁ := by rw [Keyed.get?_set, if_pos rfl]
    have hbelow := ih hget hrest
    rw [Keyed.set_set] at hbelow
    refine resolveLists_cons_iff.2 ⟨node, .map (Keyed.set k n₁ cs), rest, ?_, ?_, hbelow, rfl⟩
    · rw [Node.walk_cons, Node.child?, hn]
      exact hwalk
    · rw [Node.update?, hn]
      simp only [Option.bind_some, hupdate]
      rfl

mutual

/-- Resolving all lists of a tree, one after the other, is to change each to its addresses. -/
theorem resolveLists_listPaths (known : Resolved) : ∀ n : Node, n.Distinct →
    (r.resolveLists vendor n.listPaths n known).Gives
      (n.mapLists r.addressList, r.noted known n.held) (hosts n.held)
  | .undefined, _ => ⟨rfl, rfl⟩
  | .list es, _ => resolveLists_cons_iff.2
      ⟨.list es, .list (r.addressList es), [], rfl, rfl, ⟨rfl, rfl⟩, (List.append_nil _).symm⟩
  | .map cs, hd => resolveLists_listPathsBelow known [] cs hd.1 hd.2

theorem resolveLists_listPathsBelow (known : Resolved) (done : List (String × Node)) :
    ∀ cs : List (String × Node), (Keyed.keys (done ++ cs)).Nodup → Node.DistinctBelow cs →
    (r.resolveLists vendor (Node.listPathsBelow cs) (.map (done ++ cs)) known).Gives
      (.map (done ++ Node.mapListsBelow r.addressList cs), r.noted known (Node.heldBelow cs))
      (hosts (Node.heldBelow cs))
  | [], _, _ => ⟨rfl, rfl⟩
  | (k, n) :: cs, hnodup, hd => by
    have hk : k ∉ Keyed.keys done := by
      intro hk
      rw [Keyed.keys, List.map_append, List.nodup_append] at hnodup
      exact hnodup.2.2 k hk k List.mem_cons_self rfl
    have hget : Keyed.get? k (done ++ (k, n) :: cs) = some n := by
      rw [Keyed.get?_append, Keyed.get?_eq_none_iff.2 hk]
      simp [Keyed.get?]
    have hn := resolveLists_below hget (resolveLists_listPaths known n hd.1)
    rw [Keyed.set_append_cons _ _ _ hk] at hn
    -- the child just resolved is done, so the rest is resolved next to it
    have hrest := resolveLists_listPathsBelow (r.noted known n.held)
      (done ++ [(k, n.mapLists r.addressList)]) cs (by simpa [Keyed.keys] using hnodup) hd.2
    rw [List.append_assoc, List.append_assoc, List.singleton_append, List.singleton_append] at hrest
    rw [Node.listPathsBelow, Node.mapListsBelow, Node.heldBelow, noted_append, hosts_append]
    exact resolveLists_append hn hrest

end

end Resolver

namespace Config

variable {c : Config} {r : Resolver} {vendor : String}

/-- A build asks for nothing before it has a plan. -/
theorem asked_build (c : Config) (r : Resolver) (vendor : String) :
    (c.build r vendor).asked = match c.plan vendor with
      | .ok p => (p.settle r vendor).asked
      | .error _ => [] := by
  simp only [build, Report.asked_bind, Report.asked_note, List.nil_append]
  cases c.plan vendor with
  | error e => rfl
  | ok p =>
    simp only [Report.asked_bind]
    cases (p.settle r vendor).value <;> exact List.append_nil _

theorem asked_build_of_unresolved (hoff : c.flag (vendor ++ ".resolve_servers") = false) :
    (c.build r vendor).asked = [] := by
  rw [asked_build]
  cases hp : c.plan vendor with
  | error e => rfl
  | ok p =>
    obtain ⟨x, -, rfl⟩ := plan_ok hp
    simp [Plan.settle, hoff]

section
variable (ho : c.root.Ordered) (hon : c.flag (vendor ++ ".resolve_servers") = true)
include ho hon

/-- With resolution all lists of the plan are changed to addresses. -/
theorem settle_gives {p : Plan} (hp : c.plan vendor = .ok p) :
    (p.settle r vendor).Gives (p.root.mapLists r.addressList, r.noted [] p.root.held)
      (Resolver.hosts p.root.held) := by
  obtain ⟨x, hx, rfl⟩ := plan_ok hp
  have hgives : (r.resolveLists vendor x.1.listPaths x.1 []).Gives
      (x.1.mapLists r.addressList, r.noted [] x.1.held) (Resolver.hosts x.1.held) :=
    Resolver.resolveLists_listPaths [] x.1 (nodeAt_distinct hx)
  rw [← nodeAt_listPaths ho hx] at hgives
  simpa only [Plan.settle, hon, if_true] using hgives

/-- With resolution the tree below the servers is the directory when its lists are changed. -/
theorem build_of_resolved :
    (c.build r vendor).value = (c.plan vendor).map fun p =>
      { name := vendor, levels := p.levels, resolve := true, root := p.root.mapLists r.addressList,
        resolved := r.noted [] p.root.held } := by
  rw [build_value]
  cases hp : c.plan vendor with
  | error e => rfl
  | ok p =>
    have hgives := settle_gives (r := r) ho hon hp
    have hresolve : p.resolve = true := by
      obtain ⟨x, -, rfl⟩ := plan_ok hp
      exact hon
    simp only [Except.bind, hgives.1, Except.map, hresolve]

theorem asked_build_of_resolved {p : Plan} (hp : c.plan vendor = .ok p) :
    (c.build r vendor).asked = Resolver.hosts p.root.held := by
  rw [asked_build, hp]
  exact (settle_gives ho hon hp).2

/-- A directory with resolved servers is the planned tree with each list changed to the addresses of
its identifiers. -/
theorem build_resolved {d : Directory} (hb : (c.build r vendor).value = .ok d) :
    ∃ x, c.nodeAt (c.strings (vendor ++ ".levels")) [vendor, "servers"] = .ok x ∧
      d = { name := vendor, levels := c.strings (vendor ++ ".levels"), resolve := true,
            root := x.1.mapLists r.addressList, resolved := r.noted [] x.1.held } := by
  rw [build_of_resolved ho hon, map_eq_ok] at hb
  obtain ⟨p, hp, rfl⟩ := hb
  obtain ⟨x, hx, rfl⟩ := plan_ok hp
  exact ⟨x, hx, rfl⟩

end

end Config

end Egress
