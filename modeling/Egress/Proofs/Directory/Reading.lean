import Egress.Proofs.Directory.Mirror

/-!
# What a build reads

A build looks for a vendor in two ways. Whether it is there, its levels and whether its servers are
resolved are read by dotted paths, which cut the vendor's name at every dot (`dottedKeys`); the
servers are read below the key that is the name itself. A build depends on these two places and on
nothing else (`build_congr`). They are one entry of the document, and one that decides whether the
vendor is known, for the names without a dot that are not empty, and for no others
(`build_reads_entry`).
-/

set_option autoImplicit false

namespace Egress

open Document

namespace Config

variable {c c' : Config} {r : Resolver} {vendor : String}

/-! ## Planning -/

/-- The tree at a path depends on the values below the path only. -/
theorem nodeAt_congr {levels path : List String}
    (h : ∀ p, c'.root.at? (path ++ p) = c.root.at? (path ++ p)) :
    c'.nodeAt levels path = c.nodeAt levels path := by
  induction levels generalizing path with
  | nil =>
    have hpath := h []
    rw [List.append_nil] at hpath
    rw [nodeAt_nil, nodeAt_nil, shapeAt?, shapeAt?, stringsAt, stringsAt, hpath]
  | cons level deeper ih =>
    have hpath := h []
    rw [List.append_nil] at hpath
    have hbelow (key : String) : c'.nodeAt deeper (path ++ [key]) = c.nodeAt deeper (path ++ [key]) :=
      ih fun p => by simpa using h (key :: p)
    rw [nodeAt_cons, nodeAt_cons, shapeAt?, shapeAt?, keysAt, keysAt, hpath, funext hbelow]

theorem plan_congr (hdotted : c'.root.at? (dottedKeys vendor) = c.root.at? (dottedKeys vendor))
    (hentry : c'.root.child? vendor = c.root.child? vendor) : c'.plan vendor = c.plan vendor := by
  have hfield (field : String) :
      c'.root.at? (dottedKeys vendor ++ [field]) = c.root.at? (dottedKeys vendor ++ [field]) := by
    rw [Value.at?_append, Value.at?_append, hdotted]
  have hvendor : c'.mem vendor = c.mem vendor := by
    by_cases hne : vendor = ""
    · subst hne
      rfl
    · rw [mem, mem, get?, get?, segments_of_ne_empty hne, hdotted]
  have hservers : c'.mem (vendor ++ ".servers") = c.mem (vendor ++ ".servers") := by
    rw [mem, mem, get?_servers, get?_servers, hfield]
  have hlevels : c'.strings (vendor ++ ".levels") = c.strings (vendor ++ ".levels") := by
    rw [strings, strings, get?_levels, get?_levels, hfield]
  have hresolve : c'.flag (vendor ++ ".resolve_servers") = c.flag (vendor ++ ".resolve_servers") := by
    rw [flag, flag, get?_resolve, get?_resolve, hfield]
  have hnode (levels : List String) :
      c'.nodeAt levels [vendor, "servers"] = c.nodeAt levels [vendor, "servers"] :=
    nodeAt_congr fun p => by simp only [List.cons_append, Value.at?, hentry]
  rw [plan_checks, plan_checks, hvendor, hservers, hlevels, hresolve, hnode]

/-! ## Building -/

/-- A build depends on what is below the vendor's dotted path and below its name as a key. -/
theorem build_congr (hdotted : c'.root.at? (dottedKeys vendor) = c.root.at? (dottedKeys vendor))
    (hentry : c'.root.child? vendor = c.root.child? vendor) : c'.build r vendor = c.build r vendor := by
  simp only [build, plan_congr hdotted hentry]

/-! ## Unknown vendors -/

theorem nodeAt_ne_unknownVendor {levels path : List String} {name : String} :
    c.nodeAt levels path ≠ .error (.config (.unknownVendor name)) := by
  induction levels generalizing path with
  | nil =>
    rw [nodeAt_nil]
    split <;> simp
  | cons level deeper ih =>
    rw [nodeAt_cons]
    split
    · simp
    · intro h
      obtain ⟨key, -, x, hx⟩ := foldlM_error h
      rw [addChild] at hx
      cases hchild : c.nodeAt deeper (path ++ [key]) with
      | error e =>
        rw [hchild] at hx
        exact ih (hchild.trans hx)
      | ok y =>
        simp only [hchild, bind, Except.bind] at hx
        split at hx <;> simp at hx
    · simp

theorem plan_unknownVendor_iff :
    c.plan vendor = .error (.config (.unknownVendor vendor)) ↔ c.mem vendor = false := by
  rw [plan_checks]
  cases c.mem vendor with
  | false => simp
  | true =>
    simp only [if_true, Bool.true_eq_false, iff_false]
    intro h
    split at h
    · split at h
      · simp at h
      · exact nodeAt_ne_unknownVendor (map_eq_error.1 h)
    · simp at h

end Config

theorem Resolver.resolveLists_ne_unknownVendor {r : Resolver} {vendor name : String}
    {paths : List (List String)} {root : Node} {known : Resolved} :
    (r.resolveLists vendor paths root known).value ≠ .error (.config (.unknownVendor name)) := by
  induction paths generalizing root known with
  | nil => nofun
  | cons path paths ih =>
    rw [resolveLists]
    split
    · simp
    · simp only [Report.value_bind]
      split
      · exact ih
      · simp
      · simp

theorem Plan.settle_ne_unknownVendor {p : Plan} {r : Resolver} {vendor name : String} :
    (p.settle r vendor).value ≠ .error (.config (.unknownVendor name)) := by
  rw [settle]
  split
  · exact Resolver.resolveLists_ne_unknownVendor
  · intro h
    cases h

namespace Config

variable {c : Config} {r : Resolver} {vendor : String}

/-- A vendor is unknown if and only if there is nothing at its dotted path. -/
theorem build_unknownVendor_iff :
    (c.build r vendor).value = .error (.config (.unknownVendor vendor)) ↔
      c.root.at? (segments vendor) = none := by
  have hmem : c.mem vendor = false ↔ c.root.at? (segments vendor) = none := by
    simp [mem, get?]
  rw [← hmem, ← plan_unknownVendor_iff, build_value]
  cases c.plan vendor with
  | error e => simp [Except.bind]
  | ok p =>
    simp only [Except.bind, reduceCtorEq, iff_false]
    exact fun h => p.settle_ne_unknownVendor (map_eq_error.1 h)

/-- The top-level entry with a vendor's name decides a build of the vendor: it is unknown if and
only if there is none, and the whole build is the same with any configuration that has the same. -/
def EntryDecides (r : Resolver) (vendor : String) : Prop :=
  ∀ c : Config,
    ((c.build r vendor).value = .error (.config (.unknownVendor vendor)) ↔
      c.root.child? vendor = none) ∧
    ∀ c' : Config, c'.root.child? vendor = c.root.child? vendor →
      c'.build r vendor = c.build r vendor

theorem entryDecides_of_plain (hne : vendor ≠ "") (hdot : '.' ∉ vendor.toList) :
    EntryDecides r vendor := by
  refine fun c => ⟨?_, fun c' h => build_congr ?_ h⟩
  · rw [build_unknownVendor_iff, segments_of_ne_empty hne, dottedKeys_of_not_mem hdot,
      Value.at?_singleton]
  · rw [dottedKeys_of_not_mem hdot, Value.at?_singleton, Value.at?_singleton, h]

/-- The nameless vendor is never unknown. -/
theorem not_entryDecides_empty : ¬ EntryDecides r "" := by
  intro h
  have hknown := (h ⟨.table []⟩).1.2 rfl
  rw [build_unknownVendor_iff] at hknown
  cases hknown

/-- A vendor whose name has a dot is unknown although it has an entry. -/
theorem not_entryDecides_dotted (hdot : '.' ∈ vendor.toList) : ¬ EntryDecides r vendor := by
  intro h
  have hhas : (Value.table [(vendor, .boolean true)]).child? vendor = some (.boolean true) := by
    simp [Value.child?, Keyed.get?]
  have hne : vendor ≠ "" := by
    rintro rfl
    cases hdot
  have hnone : (Value.table [(vendor, .boolean true)]).at? (dottedKeys vendor) = none := by
    cases hkeys : dottedKeys vendor with
    | nil => simp [dottedKeys, Text.pieces_ne_nil] at hkeys
    | cons k rest =>
      have hk : vendor ≠ k := fun hk => not_mem_dottedKeys hdot (hkeys ▸ hk ▸ List.mem_cons_self)
      simp [Value.at?, Value.child?, Keyed.get?, hk]
  have hunknown := (h ⟨.table [(vendor, .boolean true)]⟩).1.1
    (build_unknownVendor_iff.2 (segments_of_ne_empty hne ▸ hnone))
  rw [hhas] at hunknown
  cases hunknown

/-- A vendor is unknown if and only if there is nothing at its dotted path, and a build depends on
what is there and on the entry with the vendor's name. The entry alone decides for the names that
are not empty and have no dot, and for no others. -/
theorem build_reads_entry (r : Resolver) (vendor : String) :
    (∀ c : Config, (c.build r vendor).value = .error (.config (.unknownVendor vendor)) ↔
      c.root.at? (segments vendor) = none) ∧
    (∀ c c' : Config, c'.root.at? (dottedKeys vendor) = c.root.at? (dottedKeys vendor) →
      c'.root.child? vendor = c.root.child? vendor → c'.build r vendor = c.build r vendor) ∧
    (EntryDecides r vendor ↔ vendor ≠ "" ∧ '.' ∉ vendor.toList) := by
  refine ⟨fun c => build_unknownVendor_iff, fun c c' => build_congr, fun h => ⟨?_, fun hdot => ?_⟩,
    fun h => entryDecides_of_plain h.1 h.2⟩
  · rintro rfl
    exact not_entryDecides_empty h
  · exact not_entryDecides_dotted hdot h

/-- One vendor, with a dot in its name. -/
def sampleDotted : Config :=
  ⟨.table [("acme.net", .table [("servers", .list [.text "a"])])]⟩

theorem dotted_vendor_unknown :
    (sampleDotted.root.child? "acme.net").isSome = true ∧
      (sampleDotted.build Resolver.addressesOnly "acme.net").value =
        .error (.config (.unknownVendor "acme.net")) :=
  ⟨rfl, build_unknownVendor_iff.2 (by rfl)⟩

end Config

end Egress
