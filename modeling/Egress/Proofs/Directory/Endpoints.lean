import Egress.Proofs.Directory.Reading

/-!
# Configured servers and the endpoints built from them

A list of servers may hold any values, and a value that is no list stands for itself
(`Value.elements`). Only texts, numbers and truth values become endpoints (`Value.CanBeEndpoint`).
A build looks at no element: those that can be endpoints become one each, in order, and the others
are left out (`build_keeps_endpoints`). So all servers configured at a path are there if and only if
every one of them can be an endpoint.
-/

set_option autoImplicit false

namespace Egress

namespace Document.Value

/-- The values configured where servers are expected. -/
def elements : Value → List Value
  | .list items => items
  | v => [v]

/-- A value that can be an endpoint. -/
def CanBeEndpoint : Value → Prop
  | .text _ | .integer _ | .float _ | .boolean _ => True
  | .datetime _ | .list _ | .table _ => False

theorem scalarText?_isSome_iff {v : Value} : v.scalarText?.isSome = true ↔ v.CanBeEndpoint := by
  cases v <;> simp [scalarText?, CanBeEndpoint]

theorem texts_eq (v : Value) : v.texts = v.elements.filterMap scalarText? := by
  cases v <;> rfl

/-- As many texts as there are elements come from elements that can all be endpoints. -/
theorem length_texts_iff {v : Value} :
    v.texts.length = v.elements.length ↔ ∀ x ∈ v.elements, x.CanBeEndpoint := by
  rw [texts_eq, List.filterMap_length_eq_length]
  exact forall_congr' fun x => imp_congr_right fun _ => scalarText?_isSome_iff

/-- The texts are those of the elements, one for each, if every element can be an endpoint. -/
theorem texts_eq_map {v : Value} (h : ∀ x ∈ v.elements, x.CanBeEndpoint) :
    v.texts.map some = v.elements.map scalarText? := by
  rw [texts_eq, List.map_filterMap_some_eq_filter_map_isSome, List.filter_eq_self]
  intro t ht
  obtain ⟨x, hx, rfl⟩ := List.mem_map.1 ht
  exact scalarText?_isSome_iff.2 (h x hx)

end Document.Value

open Document

namespace Config

variable {c : Config} {r : Resolver} {vendor : String} {d : Directory}

/-- Without resolution the tree built is the image of what is configured. -/
theorem build_unresolved_mirrors (hoff : c.flag (vendor ++ ".resolve_servers") = false)
    (hb : (c.build r vendor).value = .ok d) :
    c.Mirrors [vendor, "servers"] (c.strings (vendor ++ ".levels")).length d.root := by
  obtain ⟨p, x, hp, hx, rfl⟩ := build_ok hb
  obtain ⟨y, hy, rfl⟩ := plan_ok hp
  rw [Plan.settle, hoff] at hx
  obtain rfl := Except.ok.inj hx
  exact nodeAt_mirrors hy

/-- Of what is configured at the declared depth, a directory has the elements that can be endpoints,
in order. It has one endpoint for every element if and only if each of them can be one. -/
theorem build_keeps_endpoints (hoff : c.flag (vendor ++ ".resolve_servers") = false)
    (hb : (c.build r vendor).value = .ok d) {path : List String} {v : Value}
    (hdepth : path.length = (c.strings (vendor ++ ".levels")).length)
    (hv : c.root.at? ([vendor, "servers"] ++ path) = some v) :
    ∃ endpoints, d.serversAt path = .ok endpoints ∧
      endpoints = v.elements.filterMap Value.scalarText? ∧
      (endpoints.length = v.elements.length ↔ ∀ x ∈ v.elements, x.CanBeEndpoint) ∧
      ((∀ x ∈ v.elements, x.CanBeEndpoint) →
        endpoints.map some = v.elements.map Value.scalarText?) := by
  have hm := build_unresolved_mirrors hoff hb
  have htexts : c.stringsAt ([vendor, "servers"] ++ path) = v.texts := by
    rw [stringsAt, hv]
    rfl
  have hservers : d.serversAt path = .ok v.texts := by
    rw [Directory.serversAt, hm.walk_list hdepth (by rw [hv]; rfl), htexts]
    rfl
  exact ⟨v.texts, hservers, v.texts_eq, Value.length_texts_iff, Value.texts_eq_map⟩

/-- One level. The first list has a list and a time between its servers, and the second value is a
time and no list. -/
def sampleOddServers : Config :=
  ⟨.table [("acme", .table [("levels", .list [.text "region"]),
    ("servers", .table [("eu", .list [.text "a", .list [.text "b"], .datetime "07:32:00", .integer 4]),
      ("us", .datetime "07:32:00")])])]⟩

theorem build_keeps_endpoints_sample :
    sampleOddServers.flag ("acme" ++ ".resolve_servers") = false ∧
    ["eu"].length = (sampleOddServers.strings ("acme" ++ ".levels")).length ∧
    ∃ d, (sampleOddServers.build Resolver.addressesOnly "acme").value = .ok d ∧
      d.serversAt ["eu"] = .ok ["a", "4"] := by
  have hoff : sampleOddServers.flag ("acme" ++ ".resolve_servers") = false := by decide +kernel
  have hdepth : ["eu"].length = (sampleOddServers.strings ("acme" ++ ".levels")).length := by
    decide +kernel
  refine ⟨hoff, hdepth, _, rfl, ?_⟩
  obtain ⟨endpoints, hservers, rfl, -⟩ :=
    build_keeps_endpoints hoff (r := Resolver.addressesOnly) rfl hdepth rfl
  rw [hservers]
  rfl

/-- A build that succeeds and has lost three of the five servers configured. -/
theorem odd_servers_lost :
    ∃ d, (sampleOddServers.build Resolver.addressesOnly "acme").value = .ok d ∧
      d.serversAt ["eu"] = .ok ["a", "4"] ∧ d.serversAt ["us"] = .ok [] :=
  ⟨_, rfl, rfl, rfl⟩

end Config

end Egress
