import Egress.Proofs.Address
import Egress.Proofs.Directory.Resolution

/-!
# Addresses resolved again

An identifier that is an address stands for itself; one that is looked up stands for the addresses
found; one that is not found is kept or dropped (`Resolver.Outcome`). What comes out each time stands
for itself (`Resolver.addresses_of_mem`): the text of an address is read as an address, and what was
kept is looked up to no avail and kept again. So a list that came out of resolving stays as it is
when it is resolved once more (`Resolver.resolve_stable`).
-/

set_option autoImplicit false

namespace Egress.Resolver

variable {r : Resolver} {x a : String} {as : List String}

/-! ## Outcomes -/

/-- What an identifier stands for. -/
inductive Outcome (r : Resolver) (x : String) : List String → Prop
  | literal (h : Address.isLiteral x = true) : Outcome r x [x]
  | found {addresses : List Address} (h : Address.isLiteral x = false)
      (hfound : r.lookup x = .ok addresses) : Outcome r x (addresses.map Address.text)
  | kept {fault : Fault} (h : Address.isLiteral x = false) (hfault : r.lookup x = .error fault)
      (hkeep : (r.retainShaped && Address.isShaped x) = true) : Outcome r x [x]
  | dropped {fault : Fault} (h : Address.isLiteral x = false) (hfault : r.lookup x = .error fault)
      (hdrop : (r.retainShaped && Address.isShaped x) = false) : Outcome r x []

theorem value_tryResolve (h : Address.isLiteral x = false) : (r.tryResolve x).value =
    match r.lookup x with
    | .ok addresses => .ok (addresses.map Address.text)
    | .error fault => .error ⟨x, fault⟩ := by
  rw [tryResolve, h, if_neg Bool.false_ne_true, Report.value_bind, ask]
  cases r.lookup x <;> rfl

theorem addresses_of_literal (h : Address.isLiteral x = true) : r.addresses x = [x] := by
  have htry : r.tryResolve x = pure (.ok [x]) := by rw [tryResolve, if_pos h]
  rw [addresses, resolve, htry]
  rfl

theorem addresses_of_found {found : List Address} (h : Address.isLiteral x = false)
    (hfound : r.lookup x = .ok found) : r.addresses x = found.map Address.text := by
  rw [addresses, resolve, Report.value_bind, value_tryResolve h, hfound]
  rfl

theorem addresses_of_fault {fault : Fault} (h : Address.isLiteral x = false)
    (hfault : r.lookup x = .error fault) :
    r.addresses x = if r.retainShaped && Address.isShaped x then [x] else [] := by
  rw [addresses, resolve, Report.value_bind, value_tryResolve h, hfault]
  dsimp only
  split <;> rfl

theorem outcome_addresses (r : Resolver) (x : String) : r.Outcome x (r.addresses x) := by
  cases h : Address.isLiteral x with
  | true =>
    rw [addresses_of_literal h]
    exact .literal h
  | false =>
    cases hlookup : r.lookup x with
    | ok found =>
      rw [addresses_of_found h hlookup]
      exact .found h hlookup
    | error fault =>
      rw [addresses_of_fault h hlookup]
      cases hkeep : r.retainShaped && Address.isShaped x with
      | true => exact .kept h hlookup hkeep
      | false => exact .dropped h hlookup hkeep

/-! ## Once more -/

/-- What comes of an address or of a look-up that succeeded is an address. -/
theorem isLiteral_of_mem (h : r.Outcome x as) (ha : a ∈ as)
    (hx : Address.isLiteral x = true ∨ ∃ found, r.lookup x = .ok found) :
    Address.isLiteral a = true := by
  cases h with
  | literal h =>
    rw [List.mem_singleton.1 ha]
    exact h
  | found h hfound =>
    obtain ⟨address, -, rfl⟩ := List.mem_map.1 ha
    exact address.isLiteral_text
  | kept h hfault hkeep =>
    rcases hx with hx | ⟨found, hfound⟩
    · rw [h] at hx
      cases hx
    · rw [hfault] at hfound
      cases hfound
  | dropped h hfault hdrop => cases ha

/-- What an identifier stands for stands for itself. -/
theorem addresses_of_mem (h : r.Outcome x as) (ha : a ∈ as) : r.addresses a = [a] := by
  have hliteral := isLiteral_of_mem h ha
  cases h with
  | literal h => exact addresses_of_literal (hliteral (.inl h))
  | found h hfound => exact addresses_of_literal (hliteral (.inr ⟨_, hfound⟩))
  | kept h hfault hkeep =>
    -- the same look-up fails again, and the identifier has not changed its shape
    rw [List.mem_singleton.1 ha, addresses_of_fault h hfault, if_pos hkeep]
  | dropped h hfault hdrop => cases ha

/-! ## Lists -/

/-- A list without duplicates of what identifiers stand for. -/
structure Settled (r : Resolver) (l : List String) : Prop where
  nodup : l.Nodup
  resolved : ∀ a ∈ l, ∃ x, a ∈ (r.resolve x).value

theorem addressList_settled (identifiers : List String) : r.Settled (r.addressList identifiers) where
  nodup := nodup_addNew _ List.nodup_nil
  resolved a ha := by
    obtain ⟨x, -, hx⟩ := mem_addressList.1 ha
    exact ⟨x, hx⟩

theorem Settled.addressList_eq {l : List String} (h : r.Settled l) : r.addressList l = l := by
  have hself : l.flatMap r.addresses = l := by
    have hsingle : l.map r.addresses = l.map fun a => [a] := by
      refine List.map_congr_left fun a ha => ?_
      obtain ⟨x, hx⟩ := h.resolved a ha
      exact addresses_of_mem (outcome_addresses r x) hx
    rw [List.flatMap_def, hsingle, ← List.flatMap_def, List.flatMap_singleton']
  have hnew : addNew [] l = [] ++ l := addNew_eq_append h.nodup
  rw [addressList, hself, hnew, List.nil_append]

/-- Each address of an identifier stands for itself alone, and nobody is asked for it again if it is
an address in fact. A list of them without duplicates stays as it is, and what is in a resolved list
is of that kind. -/
theorem resolve_stable (r : Resolver) :
    (∀ x, ∀ a ∈ (r.resolve x).value, (r.resolve a).value = [a] ∧
      ((Address.isLiteral x = true ∨ ∃ found, r.lookup x = .ok found) →
        (r.resolve a).asked = [])) ∧
    (∀ l, r.Settled l → ∀ known, (r.resolveList known l).value.1 = l) ∧
    ∀ identifiers known, r.Settled (r.resolveList known identifiers).value.1 := by
  refine ⟨fun x a ha => ⟨?_, fun hx => ?_⟩, fun l hl known => ?_, fun identifiers known => ?_⟩
  · exact addresses_of_mem (outcome_addresses r x) ha
  · have hliteral := isLiteral_of_mem (outcome_addresses r x) ha hx
    rw [asked_resolve]
    simp [hosts, hliteral]
  · rw [value_resolveList]
    exact hl.addressList_eq
  · rw [value_resolveList]
    exact addressList_settled identifiers

/-- One host with an address that has a run of zeros and one in mixed form. -/
def sampleMixed : Resolver :=
  .ofTable [("a.example.com", .ok [.v6 [0x2001, 0xDB8, 0, 0, 0, 0, 0, 1] rfl,
    .v6 [0, 0, 0, 0, 0, 0xFFFF, 0xC000, 0x201] rfl])]

theorem resolve_stable_sample :
    "2001:db8::1" ∈ (sampleMixed.resolve "a.example.com").value ∧
      (sampleMixed.resolve "2001:db8::1").value = ["2001:db8::1"] ∧
      (sampleMixed.resolve "2001:db8::1").asked = [] ∧
      sampleMixed.Settled ["::ffff:192.0.2.1", "1.2.3.999"] ∧
      (sampleMixed.resolveList [] ["::ffff:192.0.2.1", "1.2.3.999"]).value.1 =
        ["::ffff:192.0.2.1", "1.2.3.999"] := by
  obtain ⟨hself, hlist, -⟩ := resolve_stable sampleMixed
  have hin : "2001:db8::1" ∈ (sampleMixed.resolve "a.example.com").value := by decide +kernel
  have hsettled : sampleMixed.Settled ["::ffff:192.0.2.1", "1.2.3.999"] := by
    refine ⟨by decide, fun a ha => ?_⟩
    rcases List.mem_cons.1 ha with rfl | ha
    · exact ⟨"a.example.com", by decide +kernel⟩
    · obtain rfl := List.mem_singleton.1 ha
      exact ⟨"1.2.3.999", by decide +kernel⟩
  obtain ⟨hvalue, hasked⟩ := hself _ _ hin
  exact ⟨hin, hvalue, hasked (.inr ⟨_, rfl⟩), hsettled, hlist _ hsettled []⟩

end Egress.Resolver
