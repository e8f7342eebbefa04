import Egress.Service

/-!
# What a registry holds

`s₀.Lives h s`: the service `s₀` became `s`, and in the meantime its directories were rebuilt, and
taken by readers, as `h` says in order. Configuration and resolver may be replaced at any time; a
rebuild is one on request or one of the background refresh (`lives_sleep`, `lives_jump`). Whatever
happens, the vendors stay those that were bootstrapped, and every one of them has the directory of
its last build that succeeded (`Registry.Holds`), each apart from all others.
-/

set_option autoImplicit false

namespace Egress

/-! ## One rebuild -/

/-- The directory of a vendor, if it can be built. -/
def Config.built? (c : Config) (r : Resolver) (vendor : String) : Option Directory :=
  (c.build r vendor).value.toOption

/-- The channel of a vendor after a rebuild: it keeps its directory when there is no other. -/
def Config.renew (c : Config) (r : Resolver) (vendor : String) (channel : Channel Directory) :
    Channel Directory :=
  match c.built? r vendor with
  | some directory => channel.send directory
  | none => channel

section
variable {c : Config} {r : Resolver} {vendor : String}

theorem Config.built?_eq_some_iff {d : Directory} :
    c.built? r vendor = some d ↔ (c.build r vendor).value = .ok d := by
  unfold built?
  cases (c.build r vendor).value <;> simp [Except.toOption]

theorem Config.value_renew (channel : Channel Directory) :
    (c.renew r vendor channel).value = (c.built? r vendor).getD channel.value := by
  unfold renew
  cases c.built? r vendor <;> rfl

/-- Every channel is renewed for itself, and the number is that of the vendors that were built. -/
theorem Registry.refreshChannels_value (channels : List (String × Channel Directory)) :
    (refreshChannels c r channels).value =
      (channels.map fun e => (e.1, c.renew r e.1 e.2),
        (Keyed.keys channels).countP fun v => (c.built? r v).isSome) := by
  induction channels with
  | nil => rfl
  | cons e rest ih =>
    obtain ⟨v, channel⟩ := e
    have hkeys : Keyed.keys ((v, channel) :: rest) = v :: Keyed.keys rest := rfl
    rw [hkeys, List.map_cons, List.countP_cons, Config.renew, Config.built?]
    simp only [refreshChannels, Report.value_bind]
    cases (c.build r v).value with
    | ok d => simp only [Report.value_bind, Report.value_pure, ih]; rfl
    | error e => simp only [Report.value_bind, Report.value_pure, ih]; rfl

end

namespace Registry

variable (reg : Registry) (c : Config) (r : Resolver)

theorem refresh_value : (reg.refresh c r).value =
    (⟨reg.channels.map fun e => (e.1, c.renew r e.1 e.2)⟩,
      reg.vendors.countP fun v => (c.built? r v).isSome) := by
  simp only [refresh, Report.value_bind, Report.value_pure, refreshChannels_value]
  rfl

theorem vendors_refresh : (reg.refresh c r).value.1.vendors = reg.vendors := by
  rw [refresh_value]
  exact Keyed.keys_mapValues (c.renew r) reg.channels

/-- A refresh replaces the directories of the vendors that can be built, and no others. -/
theorem get?_refresh {vendor : String} (hv : vendor ∈ reg.vendors) :
    (reg.refresh c r).value.1.get? vendor = (c.built? r vendor).or (reg.get? vendor) := by
  obtain ⟨channel, hc⟩ := Option.isSome_iff_exists.1 (Keyed.isSome_get?_iff.2 hv)
  rw [refresh_value, get?, channel?, Keyed.get?_mapValues (c.renew r), get?, channel?, hc]
  simp only [Option.map_some, Config.value_renew]
  cases c.built? r vendor <;> rfl

theorem vendors_close : reg.close.vendors = reg.vendors :=
  Keyed.keys_mapValues (fun _ channel => Channel.close channel) reg.channels

theorem get?_close (vendor : String) : reg.close.get? vendor = reg.get? vendor := by
  have hc : reg.close.channel? vendor = (reg.channel? vendor).map Channel.close :=
    Keyed.get?_mapValues (fun _ channel => Channel.close channel) vendor reg.channels
  rw [get?, get?, hc, Option.map_map]
  rfl

theorem isSome_get?_iff {vendor : String} :
    (reg.get? vendor).isSome = true ↔ vendor ∈ reg.vendors := by
  rw [get?, Option.isSome_map]
  exact Keyed.isSome_get?_iff

end Registry

/-! ## Bootstrapping -/

/-- What is new in a list begins with its first element, if that is new. -/
theorem eraseDups_removeAll_cons {v : String} {known : List String} (h : v ∉ known)
    (vs : List String) : ((v :: vs).removeAll known).eraseDups =
      v :: (vs.removeAll (known ++ [v])).eraseDups := by
  have hv : (v :: vs).removeAll known = v :: vs.removeAll known := by simp [List.removeAll, h]
  rw [hv, List.eraseDups_cons]
  congr 2
  simp only [List.removeAll, List.filter_filter]
  exact List.filter_congr fun x _ => by grind

section
variable {c : Config} {r : Resolver}

/-- The vendors' directories are built in order; a vendor that has one is not built again. -/
theorem Config.buildAll_ok {vendors : List String}
    {channels channels' : List (String × Channel Directory)}
    (h : (c.buildAll r vendors channels).value = .ok channels') :
    Keyed.keys channels' =
        Keyed.keys channels ++ (vendors.removeAll (Keyed.keys channels)).eraseDups ∧
      (∀ v ∈ vendors, v ∉ Keyed.keys channels →
        ∃ d, c.built? r v = some d ∧ Keyed.get? v channels' = some { value := d }) ∧
      ∀ v ∈ Keyed.keys channels, Keyed.get? v channels' = Keyed.get? v channels := by
  induction vendors generalizing channels with
  | nil =>
    obtain rfl := Except.ok.inj h
    exact ⟨(List.append_nil _).symm, by simp, fun _ _ => rfl⟩
  | cons vendor vendors ih =>
    simp only [buildAll] at h
    split at h
    · rename_i hmem
      have hmem := Keyed.isSome_get?_iff.1 hmem
      obtain ⟨hkeys, hbuilt, hold⟩ := ih h
      refine ⟨?_, fun v hv hnew => ?_, hold⟩
      · simpa [List.removeAll, hmem] using hkeys
      · refine hbuilt v ((List.mem_cons.1 hv).resolve_left ?_) hnew
        rintro rfl
        exact hnew hmem
    · rename_i hmem
      have hmem : vendor ∉ Keyed.keys channels := fun hm => hmem (Keyed.isSome_get?_iff.2 hm)
      simp only [Report.value_bind] at h
      split at h
      · cases h
      · rename_i d hd
        obtain ⟨hkeys, hbuilt, hold⟩ := ih h
        have hnew : Keyed.keys (channels ++ [(vendor, ({ value := d } : Channel Directory))]) =
            Keyed.keys channels ++ [vendor] := List.map_append
        have hget (v : String) :
            Keyed.get? v (channels ++ [(vendor, ({ value := d } : Channel Directory))]) =
              (Keyed.get? v channels).or (if vendor = v then some { value := d } else none) := by
          rw [Keyed.get?_append]
          rfl
        rw [hnew] at hkeys hbuilt hold
        refine ⟨?_, fun v hv hv' => ?_, fun v hv => ?_⟩
        · rw [hkeys, List.append_assoc]
          congr 1
          exact (eraseDups_removeAll_cons hmem vendors).symm
        · by_cases hvv : vendor = v
          · subst hvv
            refine ⟨d, Config.built?_eq_some_iff.2 hd, ?_⟩
            rw [hold vendor (by simp), hget, if_pos rfl, Keyed.get?_eq_none_iff.2 hv']
            rfl
          · have hv := (List.mem_cons.1 hv).resolve_left (Ne.symm hvv)
            exact hbuilt v hv (by simp [hv', Ne.symm hvv])
        · have hvv : vendor ≠ v := fun h => hmem (h ▸ hv)
          rw [hold v (List.mem_append_left _ hv), hget, if_neg hvv, Option.or_none]

/-- Bootstrapping stops at the first vendor whose directory cannot be built. -/
theorem Config.buildAll_error {vendors : List String} {e : DirectoryError}
    {channels : List (String × Channel Directory)}
    (h : (c.buildAll r vendors channels).value = .error e) :
    ∃ before v after, vendors = before ++ v :: after ∧
      (∀ u ∈ before, u ∉ Keyed.keys channels → ∃ d, (c.build r u).value = .ok d) ∧
      v ∉ Keyed.keys channels ∧ (c.build r v).value = .error e := by
  induction vendors generalizing channels with
  | nil => cases h
  | cons vendor vendors ih =>
    simp only [buildAll] at h
    split at h
    · rename_i hmem
      have hmem := Keyed.isSome_get?_iff.1 hmem
      obtain ⟨before, v, after, rfl, hbefore, hv⟩ := ih h
      refine ⟨vendor :: before, v, after, rfl, fun u hu hnew => ?_, hv⟩
      refine hbefore u ((List.mem_cons.1 hu).resolve_left ?_) hnew
      rintro rfl
      exact hnew hmem
    · rename_i hmem
      have hmem : vendor ∉ Keyed.keys channels := fun hm => hmem (Keyed.isSome_get?_iff.2 hm)
      simp only [Report.value_bind] at h
      split at h
      · rename_i hd
        obtain rfl := Except.error.inj h
        exact ⟨[], vendor, vendors, rfl, by simp, hmem, hd⟩
      · rename_i d hd
        obtain ⟨before, v, after, rfl, hbefore, hnew, hv⟩ := ih h
        have hkeys : Keyed.keys (channels ++ [(vendor, ({ value := d } : Channel Directory))]) =
            Keyed.keys channels ++ [vendor] := List.map_append
        rw [hkeys, List.mem_append, List.mem_singleton, not_or] at hnew
        refine ⟨vendor :: before, v, after, rfl, fun u hu hu' => ?_, hnew.1, hv⟩
        by_cases huv : u = vendor
        · exact ⟨d, huv ▸ hd⟩
        · refine hbefore u ((List.mem_cons.1 hu).resolve_left huv) ?_
          rw [hkeys, List.mem_append, List.mem_singleton, not_or]
          exact ⟨hu', huv⟩

end

/-! ## Courses of a service -/

/-- Something that happened to a service. -/
inductive Happening where
  /-- All directories were rebuilt from this configuration with this resolver. -/
  | rebuilt (c : Config) (r : Resolver)
  /-- Someone took the directory of a vendor, if it has one. -/
  | taken (vendor : String) (d : Option Directory)

/-- The directory of a vendor that something built, if it did. -/
def Happening.built? (vendor : String) : Happening → Option Directory
  | rebuilt c r => c.built? r vendor
  | taken .. => none

/-- The directory of a vendor that was built last. -/
def newest? (vendor : String) (h : List Happening) : Option Directory :=
  (h.filterMap (Happening.built? vendor)).getLast?

theorem newest?_append_rebuilt (vendor : String) (h : List Happening) (c : Config) (r : Resolver) :
    newest? vendor (h ++ [.rebuilt c r]) = (c.built? r vendor).or (newest? vendor h) := by
  simp only [newest?, List.filterMap_append, List.getLast?_append]
  congr 1
  cases hb : c.built? r vendor <;> simp [Happening.built?, hb]

theorem newest?_append_taken (vendor : String) (h : List Happening) (v : String)
    (d : Option Directory) : newest? vendor (h ++ [.taken v d]) = newest? vendor h := by
  simp [newest?, Happening.built?]

namespace Service

/-- What happens to a service from the state `s₀` on (module doc). -/
inductive Lives (s₀ : Service) : List Happening → Service → Prop
  | start : Lives s₀ [] s₀
  | reconfigured {h : List Happening} {s : Service} (c : Config) : Lives s₀ h s →
      Lives s₀ h { s with config := c }
  | relisted {h : List Happening} {s : Service} (r : Resolver) : Lives s₀ h s →
      Lives s₀ h { s with resolver := r }
  | refreshed {h : List Happening} {s : Service} : Lives s₀ h s →
      Lives s₀ (h ++ [.rebuilt s.config s.resolver]) s.refresh.value.1
  | round {h : List Happening} {s : Service} {due : Nat} (next : Nat) : Lives s₀ h s →
      s.refresher = .running due →
      Lives s₀ (h ++ [.rebuilt s.config s.resolver]) (s.round next).value
  | taken {h : List Happening} {s : Service} (vendor : String) : Lives s₀ h s →
      Lives s₀ (h ++ [.taken vendor (s.registry.get? vendor)]) s
  | started {h : List Happening} {s : Service} : Lives s₀ h s → Lives s₀ h s.start
  | cancelled {h : List Happening} {s : Service} : Lives s₀ h s → Lives s₀ h s.cancel
  | passed {h : List Happening} {s : Service} (now : Nat) : Lives s₀ h s →
      Lives s₀ h { s with now }

/-! ### What the program does to a service -/

section
variable {s₀ s : Service} {h : List Happening}

/-- While time passes, any number of rebuilds may be made in the background. -/
theorem lives_roundsUntil (finish fuel : Nat) (hs : s₀.Lives h s) :
    ∃ n, s₀.Lives (h ++ List.replicate n (.rebuilt s.config s.resolver))
      (roundsUntil finish fuel s).value := by
  have none : ∃ n, s₀.Lives (h ++ List.replicate n (.rebuilt s.config s.resolver)) s :=
    ⟨0, by simpa using hs⟩
  induction fuel generalizing h s with
  | zero => exact none
  | succ fuel ih =>
    unfold roundsUntil
    split
    · rename_i due hdue
      split
      · have hround := hs.round (due + s.interval) hdue
        obtain ⟨n, hn⟩ := ih hround ⟨0, by simpa using hround⟩
        refine ⟨n + 1, ?_⟩
        rw [List.replicate_succ, List.append_cons]
        exact hn
      · exact none
    · exact none

theorem lives_sleep (ms : Nat) (hs : s₀.Lives h s) :
    ∃ n, s₀.Lives (h ++ List.replicate n (.rebuilt s.config s.resolver)) (s.sleep ms).value := by
  obtain ⟨n, hn⟩ := lives_roundsUntil (s.now + ms) (ms + 1) hs
  exact ⟨n, hn.passed (s.now + ms)⟩

theorem lives_jump (ms : Nat) (hs : s₀.Lives h s) :
    s₀.Lives h (s.jump ms).value ∨
      s₀.Lives (h ++ [.rebuilt s.config s.resolver]) (s.jump ms).value := by
  have hpassed := hs.passed (s.now + ms)
  simp only [jump]
  split
  · rename_i due hdue
    split
    · exact .inr (hpassed.round _ hdue)
    · exact .inl hpassed
  · exact .inl hpassed

end

end Service

/-! ## What the registry holds -/

/-- The vendors are these, and each has the directory of its newest build. -/
structure Registry.Holds (vendors : List String) (h : List Happening) (reg : Registry) : Prop where
  vendors_eq : reg.vendors = vendors
  get?_eq : ∀ v ∈ vendors, reg.get? v = newest? v h

section
variable {vendors : List String} {h : List Happening} {reg : Registry}

theorem Registry.Holds.refresh (hr : reg.Holds vendors h) (c : Config) (r : Resolver) :
    (reg.refresh c r).value.1.Holds vendors (h ++ [.rebuilt c r]) := by
  refine ⟨(reg.vendors_refresh c r).trans hr.vendors_eq, fun v hv => ?_⟩
  rw [newest?_append_rebuilt, ← hr.get?_eq v hv]
  exact reg.get?_refresh c r (hr.vendors_eq ▸ hv)

theorem Registry.Holds.close (hr : reg.Holds vendors h) : reg.close.Holds vendors h :=
  ⟨reg.vendors_close.trans hr.vendors_eq, fun v hv => (reg.get?_close v).trans (hr.get?_eq v hv)⟩

theorem Registry.Holds.taken (hr : reg.Holds vendors h) (v : String) (d : Option Directory) :
    reg.Holds vendors (h ++ [.taken v d]) :=
  ⟨hr.vendors_eq, fun u hu => (hr.get?_eq u hu).trans (newest?_append_taken u h v d).symm⟩

/-- Whatever happens to a service, its registry holds what was built last. -/
theorem Service.Lives.holds {s₀ s : Service} {before : List Happening} (hs : s₀.Lives h s)
    (h₀ : s₀.registry.Holds vendors before) : s.registry.Holds vendors (before ++ h) := by
  induction hs with
  | start => simpa using h₀
  | reconfigured c _ ih => exact ih
  | relisted r _ ih => exact ih
  | refreshed _ ih =>
    rw [← List.append_assoc]
    exact ih.refresh _ _
  | round next _ _ ih =>
    rw [← List.append_assoc]
    exact ih.refresh _ _
  | taken v _ ih =>
    rw [← List.append_assoc]
    exact ih.taken v _
  | started _ ih =>
    unfold Service.start
    split
    · exact ih.close
    · exact ih
  | cancelled _ ih =>
    unfold Service.cancel
    split
    · exact ih.close
    · exact ih
  | passed now _ ih => exact ih

theorem Config.bootstrap_holds {c : Config} {r : Resolver}
    (hb : (c.bootstrap r vendors).value = .ok reg) :
    reg.Holds vendors.eraseDups [.rebuilt c r] ∧
      ∀ v ∈ vendors, ∃ d, (c.build r v).value = .ok d := by
  simp only [bootstrap, Report.value_bind] at hb
  split at hb
  · cases hb
  rename_i channels hchannels
  obtain rfl := Except.ok.inj hb
  obtain ⟨hkeys, hbuilt, -⟩ := buildAll_ok hchannels
  refine ⟨⟨?_, fun v hv => ?_⟩, fun v hv => ?_⟩
  · exact hkeys.trans (congrArg List.eraseDups (List.filter_eq_self.2 fun _ _ => rfl))
  · obtain ⟨d, hd, hget⟩ := hbuilt v (List.mem_eraseDups.1 hv) nofun
    rw [Registry.get?, Registry.channel?, hget]
    exact ((newest?_append_rebuilt v [] c r).trans (by rw [hd]; rfl)).symm
  · obtain ⟨d, hd, -⟩ := hbuilt v hv nofun
    exact ⟨d, built?_eq_some_iff.1 hd⟩

theorem Config.bootstrap_error {c : Config} {r : Resolver} {e : DirectoryError}
    (hb : (c.bootstrap r vendors).value = .error e) :
    ∃ before v after, vendors = before ++ v :: after ∧
      (∀ u ∈ before, ∃ d, (c.build r u).value = .ok d) ∧ (c.build r v).value = .error e := by
  simp only [bootstrap, Report.value_bind] at hb
  split at hb
  · rename_i hchannels
    obtain rfl := Except.error.inj hb
    obtain ⟨before, v, after, hvendors, hbefore, -, hv⟩ := buildAll_error hchannels
    exact ⟨before, v, after, hvendors, fun u hu => hbefore u hu nofun, hv⟩
  · cases hb

theorem Config.bootstrap_ok_iff {c : Config} {r : Resolver} :
    (∃ reg, (c.bootstrap r vendors).value = .ok reg) ↔
      ∀ v ∈ vendors, ∃ d, (c.build r v).value = .ok d := by
  constructor
  · rintro ⟨reg, hb⟩
    exact (bootstrap_holds hb).2
  · intro hall
    cases hb : (c.bootstrap r vendors).value with
    | ok reg => exact ⟨reg, rfl⟩
    | error e =>
      obtain ⟨before, v, after, rfl, -, hv⟩ := bootstrap_error hb
      obtain ⟨d, hd⟩ := hall v (by simp)
      rw [hv] at hd
      cases hd

/-- An element of a list that ends with `x` is the last, or comes before it. -/
theorem eq_or_before_of_append_singleton {α : Type} {l before after : List α} {x a : α}
    (h : l ++ [x] = before ++ a :: after) :
    (l = before ∧ x = a) ∨ ∃ rest, l = before ++ a :: rest := by
  rcases List.eq_nil_or_concat after with rfl | ⟨rest, y, rfl⟩
  · obtain ⟨hl, hx⟩ := List.append_inj' h rfl
    exact .inl ⟨hl, (List.cons.inj hx).1⟩
  · rw [List.concat_eq_append, ← List.cons_append, ← List.append_assoc] at h
    exact .inr ⟨rest, (List.append_inj' h rfl).1⟩

/-- What was taken is what the registry had at that time. -/
theorem Service.Lives.of_taken {s₀ s : Service} (hs : s₀.Lives h s) {before after : List Happening}
    {v : String} {d : Option Directory} (hh : h = before ++ .taken v d :: after) :
    ∃ s₁, s₀.Lives before s₁ ∧ d = s₁.registry.get? v := by
  induction hs generalizing after with
  | start => simp at hh
  | reconfigured c _ ih => exact ih hh
  | relisted r _ ih => exact ih hh
  | refreshed _ ih =>
    rcases eq_or_before_of_append_singleton hh with ⟨-, hx⟩ | ⟨rest, hh⟩
    · cases hx
    · exact ih hh
  | round next _ _ ih =>
    rcases eq_or_before_of_append_singleton hh with ⟨-, hx⟩ | ⟨rest, hh⟩
    · cases hx
    · exact ih hh
  | taken u hs ih =>
    rcases eq_or_before_of_append_singleton hh with ⟨rfl, hx⟩ | ⟨rest, hh⟩
    · cases hx
      exact ⟨_, hs, rfl⟩
    · exact ih hh
  | started _ ih => exact ih hh
  | cancelled _ ih => exact ih hh
  | passed now _ ih => exact ih hh

/-- Bootstrapping works if and only if every vendor's directory can be built, and otherwise fails as
the first one that cannot. From then on, whatever happens: the vendors are those listed, each at its
first occurrence; just these have a directory, and it is the one that was built last, with the
configuration and resolver of that time; a refresh replaces the directories that can be built, no
others, and counts them; and a directory that someone took is still the one that was the newest
then. -/
theorem registry_holds_newest (c : Config) (r : Resolver) (vendors : List String) :
    ((∃ reg, (c.bootstrap r vendors).value = .ok reg) ↔
      ∀ v ∈ vendors, ∃ d, (c.build r v).value = .ok d) ∧
    (∀ e, (c.bootstrap r vendors).value = .error e →
      ∃ before v after, vendors = before ++ v :: after ∧
        (∀ u ∈ before, ∃ d, (c.build r u).value = .ok d) ∧ (c.build r v).value = .error e) ∧
    ∀ (s₀ s : Service) (h : List Happening),
      (c.bootstrap r vendors).value = .ok s₀.registry → s₀.Lives h s →
      s.registry.vendors = vendors.eraseDups ∧
      (∀ v, (s.registry.get? v).isSome = true ↔ v ∈ vendors) ∧
      (∀ v ∈ vendors, s.registry.get? v = newest? v (.rebuilt c r :: h)) ∧
      (∀ v ∈ vendors, s.refresh.value.1.registry.get? v =
        (s.config.built? s.resolver v).or (s.registry.get? v)) ∧
      s.refresh.value.2 =
        vendors.eraseDups.countP (fun v => (s.config.built? s.resolver v).isSome) ∧
      ∀ before v d after, h = before ++ .taken v d :: after → v ∈ vendors →
        d = newest? v (.rebuilt c r :: before) := by
  refine ⟨Config.bootstrap_ok_iff, fun e => Config.bootstrap_error, fun s₀ s h hb hs => ?_⟩
  have hold := hs.holds (Config.bootstrap_holds hb).1
  have hmem (v : String) : v ∈ s.registry.vendors ↔ v ∈ vendors := by
    rw [hold.vendors_eq, List.mem_eraseDups]
  refine ⟨hold.vendors_eq, fun v => s.registry.isSome_get?_iff.trans (hmem v), fun v hv => ?_,
    fun v hv => ?_, ?_, fun before v d after hh hv => ?_⟩
  · exact hold.get?_eq v (List.mem_eraseDups.2 hv)
  · exact s.registry.get?_refresh s.config s.resolver ((hmem v).2 hv)
  · rw [← hold.vendors_eq]
    exact congrArg Prod.snd (s.registry.refresh_value s.config s.resolver)
  · obtain ⟨s₁, hs₁, rfl⟩ := hs.of_taken hh
    exact (hs₁.holds (Config.bootstrap_holds hb).1).get?_eq v (List.mem_eraseDups.2 hv)

end

/-- Two vendors with one server each. -/
def sampleVendors (server : String) (acme : Document.Table) : Config :=
  ⟨.table [("acme", .table acme), ("bolt", .table [("servers", .list [.text server])])]⟩

/-- Two vendors, of which the first has its servers. -/
def sampleComplete : Config :=
  sampleVendors "x" [("servers", .list [.text "a"])]

/-- The second vendor has another server and the first has lost its own. -/
def sampleLost : Config :=
  sampleVendors "y" []

/-- A service as it is after bootstrapping, with the configuration replaced. -/
def sampleService (c : Config) : Service where
  registry := ⟨[("bolt", { value := { name := "bolt", root := .list ["x"] } }),
    ("acme", { value := { name := "acme", root := .list ["a"] } })]⟩
  config := c
  resolver := Resolver.addressesOnly
  interval := 1000

theorem registry_holds_newest_sample :
    (sampleComplete.bootstrap Resolver.addressesOnly ["bolt", "acme", "bolt"]).value =
        .ok (sampleService sampleComplete).registry ∧
      (sampleService sampleComplete).Lives [.rebuilt sampleLost Resolver.addressesOnly]
        (sampleService sampleLost).refresh.value.1 ∧
      (sampleService sampleLost).refresh.value.1.registry.vendors = ["bolt", "acme"] ∧
      (sampleService sampleLost).refresh.value.1.registry.get? "acme" =
        some { name := "acme", root := .list ["a"] } ∧
      (sampleService sampleLost).refresh.value.1.registry.get? "bolt" =
        some { name := "bolt", root := .list ["y"] } := by
  have hboot : (sampleComplete.bootstrap Resolver.addressesOnly ["bolt", "acme", "bolt"]).value =
      .ok (sampleService sampleComplete).registry := rfl
  have hlives : (sampleService sampleComplete).Lives [.rebuilt sampleLost Resolver.addressesOnly]
      (sampleService sampleLost).refresh.value.1 :=
    (Service.Lives.start.reconfigured sampleLost).refreshed
  obtain ⟨hvendors, -, hget, -⟩ := (registry_holds_newest sampleComplete Resolver.addressesOnly
    ["bolt", "acme", "bolt"]).2.2 (sampleService sampleComplete) _ _ hboot hlives
  exact ⟨hboot, hlives, hvendors, (hget "acme" (by decide)).trans rfl,
    (hget "bolt" (by decide)).trans rfl⟩

end Egress
