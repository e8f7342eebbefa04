import Mathlib.Data.List.Forall2
import Egress.Proofs.Directory.Reading
import Egress.Proofs.Registry.History

/-!
# Vendors apart from each other

What a registry has for a vendor depends on the vendor alone. Take two registries, bootstrapped and
then refreshed round by round, where first and in every round the resolver and the top-level entry
with the vendor's name are the same in both (`Round.Alike`). Whatever else there is, in whatever
order and shape, both have the same directory of the vendor after every round, and it is replaced in
the same rounds (`vendor_isolated`).
-/

set_option autoImplicit false

namespace Egress

/-- What the directories are built from at one time. -/
structure Round where
  config : Config
  resolver : Resolver

/-- Two rounds in which a vendor has the same entry, and its servers would be resolved alike. -/
structure Round.Alike (vendor : String) (x y : Round) : Prop where
  entry : x.config.root.child? vendor = y.config.root.child? vendor
  resolver : x.resolver = y.resolver

/-- In rounds that are alike the vendor is built alike, down to the reason when it cannot be. -/
theorem Round.Alike.build {vendor : String} {x y : Round} (h : x.Alike vendor y)
    (hdot : '.' ∉ vendor.toList) :
    x.config.build x.resolver vendor = y.config.build y.resolver vendor := by
  have hdotted : x.config.root.at? (dottedKeys vendor) = y.config.root.at? (dottedKeys vendor) := by
    rw [dottedKeys_of_not_mem hdot, Document.Value.at?_singleton, Document.Value.at?_singleton,
      h.entry]
  rw [h.resolver, Config.build_congr hdotted h.entry]

namespace Registry

/-- The registry after some rounds. -/
def afterRounds (reg : Registry) (rounds : List Round) : Registry :=
  rounds.foldl (fun reg x => (reg.refresh x.config x.resolver).value.1) reg

/-- The directory of a vendor was replaced between two states of a registry. -/
def Replaced (vendor : String) (before after : Registry) : Prop :=
  (after.channel? vendor).map Channel.version ≠ (before.channel? vendor).map Channel.version

theorem channel?_refresh (reg : Registry) (c : Config) (r : Resolver) (vendor : String) :
    (reg.refresh c r).value.1.channel? vendor = (reg.channel? vendor).map (c.renew r vendor) := by
  rw [refresh_value]
  exact Keyed.get?_mapValues (c.renew r) vendor reg.channels

variable {vendor : String} {reg reg' : Registry}

/-- A round in which the vendor is alike keeps its channel alike. -/
theorem channel?_refresh_congr (hdot : '.' ∉ vendor.toList)
    (h : reg.channel? vendor = reg'.channel? vendor) {x y : Round} (hxy : x.Alike vendor y) :
    (reg.refresh x.config x.resolver).value.1.channel? vendor =
      (reg'.refresh y.config y.resolver).value.1.channel? vendor := by
  have hrenew (channel : Channel Directory) :
      x.config.renew x.resolver vendor channel = y.config.renew y.resolver vendor channel := by
    unfold Config.renew Config.built?
    rw [hxy.build hdot]
  rw [channel?_refresh, channel?_refresh, h, funext hrenew]

theorem channel?_afterRounds_congr (hdot : '.' ∉ vendor.toList) {rounds rounds' : List Round}
    (hrounds : List.Forall₂ (Round.Alike vendor) rounds rounds')
    (h : reg.channel? vendor = reg'.channel? vendor) :
    (reg.afterRounds rounds).channel? vendor = (reg'.afterRounds rounds').channel? vendor := by
  induction hrounds generalizing reg reg' with
  | nil => exact h
  | cons hxy _ ih => exact ih (channel?_refresh_congr hdot h hxy)

/-- A vendor that a registry has stays in it. -/
theorem channel?_afterRounds_isSome (rounds : List Round)
    (h : (reg.channel? vendor).isSome = true) :
    ((reg.afterRounds rounds).channel? vendor).isSome = true := by
  induction rounds generalizing reg with
  | nil => exact h
  | cons x rounds ih =>
    refine ih ?_
    rw [channel?_refresh, Option.isSome_map]
    exact h

end Registry

/-- After bootstrapping, the channel of a vendor has the directory just built and nothing else. -/
theorem Config.bootstrap_channel? {c : Config} {r : Resolver} {vendors : List String}
    {reg : Registry} (hb : (c.bootstrap r vendors).value = .ok reg) {vendor : String}
    (hv : vendor ∈ vendors) :
    ∃ d, c.built? r vendor = some d ∧ reg.channel? vendor = some { value := d } := by
  simp only [bootstrap, Report.value_bind] at hb
  split at hb
  · cases hb
  · rename_i channels hchannels
    obtain rfl := Except.ok.inj hb
    exact (buildAll_ok hchannels).2.1 vendor hv List.not_mem_nil

/-- Two registries in whose histories a vendor is alike have the same directory of it after every
round, and it is replaced in the same rounds. -/
theorem vendor_isolated {vendor : String} (hdot : '.' ∉ vendor.toList) {first first' : Round}
    {vendors vendors' : List String} {reg reg' : Registry} {rounds rounds' : List Round}
    (hv : vendor ∈ vendors) (hv' : vendor ∈ vendors')
    (hb : (first.config.bootstrap first.resolver vendors).value = .ok reg)
    (hb' : (first'.config.bootstrap first'.resolver vendors').value = .ok reg')
    (hfirst : first.Alike vendor first')
    (hrounds : List.Forall₂ (Round.Alike vendor) rounds rounds') (n : Nat) :
    (∃ d, (reg.afterRounds (rounds.take n)).get? vendor = some d ∧
      (reg'.afterRounds (rounds'.take n)).get? vendor = some d) ∧
    (Registry.Replaced vendor (reg.afterRounds (rounds.take n))
        (reg.afterRounds (rounds.take (n + 1))) ↔
      Registry.Replaced vendor (reg'.afterRounds (rounds'.take n))
        (reg'.afterRounds (rounds'.take (n + 1)))) := by
  obtain ⟨d, hd, hc⟩ := Config.bootstrap_channel? hb hv
  obtain ⟨d', hd', hc'⟩ := Config.bootstrap_channel? hb' hv'
  have hstart : reg.channel? vendor = reg'.channel? vendor := by
    have hdd : some d = some d' := by
      rw [← hd, ← hd', Config.built?, Config.built?, hfirst.build hdot]
    rw [hc, hc', Option.some.inj hdd]
  have hall (m : Nat) : (reg.afterRounds (rounds.take m)).channel? vendor =
      (reg'.afterRounds (rounds'.take m)).channel? vendor :=
    Registry.channel?_afterRounds_congr hdot (List.forall₂_take m hrounds) hstart
  have hsome : ((reg.afterRounds (rounds.take n)).channel? vendor).isSome = true :=
    Registry.channel?_afterRounds_isSome _ (by rw [hc]; rfl)
  obtain ⟨channel, hchannel⟩ := Option.isSome_iff_exists.1 hsome
  refine ⟨⟨channel.value, ?_, ?_⟩, ?_⟩
  · rw [Registry.get?, hchannel, Option.map_some]
  · rw [Registry.get?, ← hall n, hchannel, Option.map_some]
  · rw [Registry.Replaced, Registry.Replaced, hall n, hall (n + 1)]

/-- The second vendor of two, on its own. -/
def sampleAlone (server : String) : Config :=
  ⟨.table [("bolt", .table [("servers", .list [.text server])]), ("router", .text "none")]⟩

/-- A registry of two vendors and one of a single vendor. -/
def sampleRegistries : Registry × Registry :=
  (⟨[("acme", { value := { name := "acme", root := .list ["a"] } }),
      ("bolt", { value := { name := "bolt", root := .list ["x"] } })]⟩,
    ⟨[("bolt", { value := { name := "bolt", root := .list ["x"] } })]⟩)

theorem vendor_isolated_sample :
    '.' ∉ "bolt".toList ∧ "bolt" ∈ ["acme", "bolt"] ∧ "bolt" ∈ ["bolt"] ∧
    (sampleComplete.bootstrap Resolver.addressesOnly ["acme", "bolt"]).value =
      .ok sampleRegistries.1 ∧
    ((sampleAlone "x").bootstrap Resolver.addressesOnly ["bolt"]).value = .ok sampleRegistries.2 ∧
    Round.Alike "bolt" ⟨sampleComplete, Resolver.addressesOnly⟩
      ⟨sampleAlone "x", Resolver.addressesOnly⟩ ∧
    List.Forall₂ (Round.Alike "bolt") [⟨sampleLost, Resolver.addressesOnly⟩]
      [⟨sampleAlone "y", Resolver.addressesOnly⟩] ∧
    ∃ d, (sampleRegistries.1.afterRounds [⟨sampleLost, Resolver.addressesOnly⟩]).get? "bolt" =
        some d ∧
      (sampleRegistries.2.afterRounds [⟨sampleAlone "y", Resolver.addressesOnly⟩]).get? "bolt" =
        some d := by
  have hdot : '.' ∉ "bolt".toList := by decide
  have hv : "bolt" ∈ ["acme", "bolt"] := by decide
  have hv' : "bolt" ∈ ["bolt"] := by decide
  have hb : (sampleComplete.bootstrap Resolver.addressesOnly ["acme", "bolt"]).value =
      .ok sampleRegistries.1 := rfl
  have hb' : ((sampleAlone "x").bootstrap Resolver.addressesOnly ["bolt"]).value =
      .ok sampleRegistries.2 := rfl
  have hfirst : Round.Alike "bolt" ⟨sampleComplete, Resolver.addressesOnly⟩
      ⟨sampleAlone "x", Resolver.addressesOnly⟩ := ⟨rfl, rfl⟩
  have hrounds : List.Forall₂ (Round.Alike "bolt") [⟨sampleLost, Resolver.addressesOnly⟩]
      [⟨sampleAlone "y", Resolver.addressesOnly⟩] := .cons ⟨rfl, rfl⟩ .nil
  exact ⟨hdot, hv, hv', hb, hb', hfirst, hrounds,
    (vendor_isolated hdot hv hv' hb hb' hfirst hrounds 1).1⟩

end Egress
