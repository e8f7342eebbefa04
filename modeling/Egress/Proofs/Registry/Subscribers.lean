import Egress.Proofs.Following
import Egress.Proofs.Registry.Isolation

/-!
# Who learns of a new directory

`reg.Sees h w`: from the registry `reg` on, vendors were rebuilt one by one, with success or not,
people subscribed, asked for changes and looked at directories, and the refresher ended, as the
history `h` says, the newest event first; the registry and the subscriptions are then `w`. A refresh
goes this way, vendor by vendor (`Sees.refreshed`). A subscription is told of a change exactly when
the directory of its vendor was replaced since the last change it was told of, or since the first
build, and is told of the end only when it has nothing left to learn (`subscriptions_informed`).
-/

set_option autoImplicit false

namespace Egress

namespace Registry

/-! ## Rebuilding one vendor -/

/-- The registry after the directory of one vendor was rebuilt, if it could be. -/
def rebuild (c : Config) (r : Resolver) (vendor : String) (reg : Registry) : Registry :=
  ⟨reg.channels.map fun e => (e.1, if e.1 = vendor then c.renew r e.1 e.2 else e.2)⟩

section
variable (c : Config) (r : Resolver) (reg : Registry)

theorem channel?_rebuild (vendor v : String) :
    (reg.rebuild c r vendor).channel? v =
      (reg.channel? v).map fun channel =>
        if v = vendor then c.renew r v channel else channel :=
  Keyed.get?_mapValues (fun k channel => if k = vendor then c.renew r k channel else channel) v
    reg.channels

theorem channel?_close (v : String) : reg.close.channel? v = (reg.channel? v).map Channel.close :=
  Keyed.get?_mapValues (fun _ channel => Channel.close channel) v reg.channels

/-- Vendors that are rebuilt one by one, each once. -/
theorem channels_foldl_rebuild {vendors : List String} (hd : vendors.Nodup) :
    (vendors.foldl (fun reg v => reg.rebuild c r v) reg).channels =
      reg.channels.map fun e => (e.1, if e.1 ∈ vendors then c.renew r e.1 e.2 else e.2) := by
  induction vendors generalizing reg with
  | nil => simp
  | cons v vendors ih =>
    obtain ⟨hv, hd⟩ := List.nodup_cons.1 hd
    rw [List.foldl_cons, ih _ hd, rebuild, List.map_map]
    refine List.map_congr_left fun e _ => Prod.ext rfl ?_
    by_cases hev : e.1 = v
    · simp [hev, hv]
    · simp [hev]

/-- A refresh rebuilds the vendors one by one. -/
theorem refresh_eq_foldl (hd : reg.vendors.Nodup) :
    (reg.refresh c r).value.1 = reg.vendors.foldl (fun reg v => reg.rebuild c r v) reg := by
  have hchannels := channels_foldl_rebuild c r reg hd
  rw [refresh_value, Registry.mk.injEq, hchannels]
  refine List.map_congr_left fun e he => Prod.ext rfl ?_
  exact (if_pos (List.mem_map_of_mem he)).symm

end

/-! ## What happens around a registry -/

/-- A registry and those who follow vendors in it. -/
structure Followed where
  registry : Registry
  subscriptions : List (String × Subscription) := []

/-- What can happen around a registry. -/
inductive Event where
  /-- The directory of a vendor was rebuilt, or could not be. -/
  | rebuilt (vendor : String) (c : Config) (r : Resolver)
  /-- Someone subscribed to a vendor. -/
  | subscribed (vendor : String)
  /-- A subscription was copied. -/
  | copied (k : Nat)
  /-- A subscriber asked for a change and was told what is new. -/
  | polled (k : Nat) (news : News)
  /-- Someone looked at the directory of a vendor. -/
  | taken (vendor : String)
  /-- The refresher ended. -/
  | ended

namespace Event

/-- The directory that replaced the one of a vendor, if something did. -/
def replacement? (v : String) : Event → Option Directory
  | rebuilt vendor c r => if vendor = v then c.built? r v else none
  | _ => none

/-- Whether the directory of a vendor was replaced. -/
def replaces (v : String) (e : Event) : Bool :=
  (e.replacement? v).isSome

/-- What an event does to those who subscribed. -/
def attention : Event → Attention String
  | subscribed v => .beginsAtStart v
  | copied k => .copies k
  | polled k news => news.attention k
  | _ => .unmoved

end Event

/-- Those who have subscribed in a history. -/
def subscribers (h : List Event) : List (Follower String Event) :=
  followers Event.attention [] h

/-- What a registry goes through, and those who follow vendors in it (module doc). -/
inductive Sees (reg : Registry) : List Event → Followed → Prop
  | start : reg.Sees [] ⟨reg, []⟩
  | rebuilt {h : List Event} {w : Followed} (vendor : String) (c : Config) (r : Resolver) :
      reg.Sees h w → .ended ∉ h →
      reg.Sees (.rebuilt vendor c r :: h) { w with registry := w.registry.rebuild c r vendor }
  | subscribed {h : List Event} {w : Followed} {v : String} {s : Subscription} :
      reg.Sees h w → w.registry.subscribe? v = some s →
      reg.Sees (.subscribed v :: h) { w with subscriptions := w.subscriptions ++ [(v, s)] }
  | copied {h : List Event} {w : Followed} {k : Nat} {s : String × Subscription} :
      reg.Sees h w → w.subscriptions[k]? = some s →
      reg.Sees (.copied k :: h) { w with subscriptions := w.subscriptions ++ [s] }
  | polled {h : List Event} {w : Followed} {k : Nat} {v : String} {s s' : Subscription}
      {news : News} : reg.Sees h w → w.subscriptions[k]? = some (v, s) →
      w.registry.poll? v s = some (news, s') →
      reg.Sees (.polled k news :: h) { w with subscriptions := w.subscriptions.set k (v, s') }
  | taken {h : List Event} {w : Followed} (v : String) :
      reg.Sees h w → reg.Sees (.taken v :: h) w
  | ended {h : List Event} {w : Followed} : reg.Sees h w → .ended ∉ h →
      reg.Sees (.ended :: h) { w with registry := w.registry.close }

section
variable {reg : Registry} {h : List Event} {w : Followed}

theorem vendors_rebuild (c : Config) (r : Resolver) (vendor : String) (reg : Registry) :
    (reg.rebuild c r vendor).vendors = reg.vendors :=
  Keyed.keys_mapValues (fun k channel => if k = vendor then c.renew r k channel else channel)
    reg.channels

theorem Sees.vendors_eq (hw : reg.Sees h w) : w.registry.vendors = reg.vendors := by
  induction hw with
  | start => rfl
  | rebuilt vendor c r _ _ ih => exact (vendors_rebuild ..).trans ih
  | subscribed _ _ ih => exact ih
  | copied _ _ ih => exact ih
  | polled _ _ _ ih => exact ih
  | taken _ _ ih => exact ih
  | ended _ _ ih => exact (vendors_close _).trans ih

/-- Vendors can be rebuilt one after the other. -/
theorem Sees.rebuilds (hw : reg.Sees h w) (hopen : .ended ∉ h) (c : Config) (r : Resolver)
    (vendors : List String) :
    reg.Sees ((vendors.map fun v => .rebuilt v c r).reverse ++ h)
      { w with registry := vendors.foldl (fun reg v => reg.rebuild c r v) w.registry } := by
  induction vendors generalizing h w with
  | nil => exact hw
  | cons v vendors ih =>
    rw [List.map_cons, List.reverse_cons, List.append_assoc, List.foldl_cons]
    exact ih (hw.rebuilt v c r hopen) (by simpa using hopen)

/-- A refresh is made of rebuilds. -/
theorem Sees.refreshed (hw : reg.Sees h w) (hopen : .ended ∉ h) (hd : reg.vendors.Nodup)
    (c : Config) (r : Resolver) :
    reg.Sees ((reg.vendors.map fun v => .rebuilt v c r).reverse ++ h)
      { w with registry := (w.registry.refresh c r).value.1 } := by
  rw [refresh_eq_foldl c r w.registry (hw.vendors_eq.symm ▸ hd), hw.vendors_eq]
  exact hw.rebuilds hopen c r reg.vendors

/-! ## The channel of a vendor -/

/-- The channel of a vendor after a history: the directory that came last, and how many came. -/
structure Tells (h : List Event) (v : String) (first : Directory) (c : Channel Directory) :
    Prop where
  value : c.value = (h.findSome? (Event.replacement? v)).getD first
  version : c.version = h.countP (Event.replaces v)
  closed : c.closed = true ↔ .ended ∈ h

variable {v : String} {first : Directory} {c : Channel Directory} {e : Event}

theorem Tells.replaced {d : Directory} (hc : Tells h v first c) (he : e.replacement? v = some d)
    (hopen : e ≠ .ended) : Tells (e :: h) v first (c.send d) where
  value := by rw [List.findSome?_cons, he]; rfl
  version := by
    have hreplaces : e.replaces v = true := by rw [Event.replaces, he]; rfl
    rw [List.countP_cons_of_pos hreplaces, ← hc.version]
    rfl
  closed := by
    rw [List.mem_cons, or_iff_right hopen.symm]
    exact hc.closed

theorem Tells.kept (hc : Tells h v first c) (he : e.replacement? v = none) (hopen : e ≠ .ended) :
    Tells (e :: h) v first c where
  value := by
    rw [List.findSome?_cons, he]
    exact hc.value
  version := by
    rw [List.countP_cons_of_neg (by simp [Event.replaces, he])]
    exact hc.version
  closed := by
    rw [List.mem_cons, or_iff_right hopen.symm]
    exact hc.closed

theorem Tells.close (hc : Tells h v first c) : Tells (.ended :: h) v first c.close where
  value := hc.value
  version := hc.version
  closed := by simp [Channel.close]

theorem Tells.rebuilt (hc : Tells h v first c) (vendor : String) (config : Config) (r : Resolver) :
    Tells (.rebuilt vendor config r :: h) v first
      (if v = vendor then config.renew r v c else c) := by
  by_cases hv : v = vendor
  · subst hv
    rw [if_pos rfl, Config.renew]
    have he : Event.replacement? v (.rebuilt v config r) = config.built? r v := if_pos rfl
    cases hd : config.built? r v with
    | none => exact hc.kept (he.trans hd) (by simp)
    | some d => exact hc.replaced (he.trans hd) (by simp)
  · rw [if_neg hv]
    exact hc.kept (if_neg (Ne.symm hv)) (by simp)

/-- Whatever happens, the channel of a vendor tells of it. -/
theorem Sees.tells (hw : reg.Sees h w) (hv : reg.channel? v = some { value := first }) :
    ∃ c, w.registry.channel? v = some c ∧ Tells h v first c := by
  induction hw with
  | start => exact ⟨_, hv, rfl, rfl, by simp⟩
  | rebuilt vendor config r _ _ ih =>
    obtain ⟨c, hc, htells⟩ := ih
    exact ⟨_, by rw [channel?_rebuild, hc, Option.map_some], htells.rebuilt vendor config r⟩
  | subscribed _ _ ih =>
    obtain ⟨c, hc, htells⟩ := ih
    exact ⟨c, hc, htells.kept rfl (by simp)⟩
  | copied _ _ ih =>
    obtain ⟨c, hc, htells⟩ := ih
    exact ⟨c, hc, htells.kept rfl (by simp)⟩
  | polled _ _ _ ih =>
    obtain ⟨c, hc, htells⟩ := ih
    exact ⟨c, hc, htells.kept rfl (by simp)⟩
  | taken _ _ ih =>
    obtain ⟨c, hc, htells⟩ := ih
    exact ⟨c, hc, htells.kept rfl (by simp)⟩
  | ended _ _ ih =>
    obtain ⟨c, hc, htells⟩ := ih
    exact ⟨_, by rw [channel?_close, hc, Option.map_some], htells.close⟩

/-! ## The subscriptions -/

theorem mem_vendors_iff {v : String} : v ∈ reg.vendors ↔ (reg.channel? v).isSome = true :=
  Keyed.isSome_get?_iff.symm

/-- Everyone follows a vendor that the registry has. -/
theorem Sees.known (hw : reg.Sees h w) : ∀ s ∈ w.subscriptions, s.1 ∈ reg.vendors := by
  induction hw with
  | start => exact fun _ hs => nomatch hs
  | rebuilt vendor c r _ _ ih => exact ih
  | subscribed hw hsub ih =>
    intro s hs
    rcases List.mem_append.1 hs with hs | hs
    · exact ih s hs
    · obtain rfl := List.mem_singleton.1 hs
      rw [← hw.vendors_eq, mem_vendors_iff]
      obtain ⟨channel, hc, -⟩ := Option.map_eq_some_iff.1 hsub
      rw [hc]
      rfl
  | copied _ hk ih =>
    intro s hs
    rcases List.mem_append.1 hs with hs | hs
    · exact ih s hs
    · obtain rfl := List.mem_singleton.1 hs
      exact ih s (List.mem_of_getElem? hk)
  | polled _ hk _ ih =>
    intro s hs
    have hv := ih _ (List.mem_of_getElem? hk)
    rcases List.mem_or_eq_of_mem_set hs with hs | rfl
    · exact ih s hs
    · exact hv
  | taken _ _ ih => exact ih
  | ended _ _ ih => exact ih

/-- The registry has just been made: no directory was replaced yet. -/
def Fresh (reg : Registry) : Prop :=
  ∀ v ∈ reg.vendors, ∃ d, reg.channel? v = some { value := d }

theorem Sees.channel (hw : reg.Sees h w) (hreg : reg.Fresh) (hv : v ∈ reg.vendors) :
    ∃ first c, reg.channel? v = some { value := first } ∧ w.registry.channel? v = some c ∧
      Tells h v first c := by
  obtain ⟨first, hfirst⟩ := hreg v hv
  obtain ⟨c, hc, htells⟩ := hw.tells hfirst
  exact ⟨first, c, hfirst, hc, htells⟩

theorem Event.count_of_none (he : ∀ v, e.replacement? v = none) :
    (fun v => (e :: h).countP (replaces v)) = fun v => h.countP (replaces v) :=
  funext fun v => List.countP_cons_of_neg (by simp [replaces, he v])

/-- Subscriptions stand for those who have subscribed. -/
theorem Sees.agree (hw : reg.Sees h w) (hreg : reg.Fresh) :
    List.Forall₂ (Agree Event.replaces h) w.subscriptions (subscribers h) := by
  induction hw with
  | start => exact .nil
  | rebuilt vendor c r _ _ ih => exact agree_follow ih _ .unmoved
  | subscribed _ hsub ih =>
    obtain ⟨_, -, rfl⟩ := Option.map_eq_some_iff.1 hsub
    exact agree_follow ih _ (.beginsAtStart _)
  | @copied h w k s _ hk ih =>
    have hcopied := agree_follow ih (.copied k) (.copies k)
    rw [Attention.subscribe, hk] at hcopied
    exact hcopied
  | @polled h w k v s s' news hw hk hpoll ih =>
    have hv : v ∈ reg.vendors := hw.known _ (List.mem_of_getElem? hk)
    obtain ⟨first, c, -, hc, htells⟩ := hw.channel hreg hv
    obtain ⟨c', hc', hnews⟩ := Option.map_eq_some_iff.1 hpoll
    obtain rfl := Option.some.inj (hc.symm.trans hc')
    have hset := set_poll hk (fun v => h.countP (Event.replaces v)) htells.version
    rw [hnews] at hset
    rw [hset, ← Event.count_of_none (e := .polled k news) fun _ => rfl]
    exact agree_follow ih _ (news.attention k)
  | taken _ _ ih => exact agree_follow ih _ .unmoved
  | ended _ _ ih => exact agree_follow ih _ .unmoved

end

end Registry

theorem nodup_eraseDups {α : Type} [BEq α] [LawfulBEq α] : ∀ l : List α, l.eraseDups.Nodup
  | [] => by simp
  | a :: l => by
    rw [List.eraseDups_cons, List.nodup_cons]
    exact ⟨by simp, nodup_eraseDups (l.filter fun b => !b == a)⟩
termination_by l => l.length
decreasing_by exact Nat.lt_succ_of_le (List.length_filter_le ..)

theorem Config.bootstrap_fresh {c : Config} {r : Resolver} {vendors : List String} {reg : Registry}
    (hb : (c.bootstrap r vendors).value = .ok reg) : reg.Fresh := by
  intro v hv
  rw [(bootstrap_holds hb).1.vendors_eq, List.mem_eraseDups] at hv
  obtain ⟨d, -, hd⟩ := bootstrap_channel? hb hv
  exact ⟨d, hd⟩

namespace Registry

/-- After bootstrapping, whatever happens in whatever order: there are subscriptions for just the
vendors, each of which has the directory that replaced its first one last; who follows a vendor is
told of a change if and only if its directory was replaced since everything was accounted for, else
of the end if the refresher is gone, and else has to wait; and a refresh is one of the things that
can happen, a rebuild for each vendor. -/
theorem subscriptions_informed {c : Config} {r : Resolver} {vendors : List String} {reg : Registry}
    {h : List Event} {w : Followed} (hb : (c.bootstrap r vendors).value = .ok reg)
    (hw : reg.Sees h w) :
    (∀ v, (w.registry.subscribe? v).isSome = true ↔ v ∈ vendors) ∧
    (∀ v ∈ vendors, ∃ first, (c.build r v).value = .ok first ∧
      w.registry.get? v = some ((h.findSome? (Event.replacement? v)).getD first)) ∧
    w.subscriptions.length = (subscribers h).length ∧
    (∀ (k : Nat) (f : Follower String Event), (subscribers h)[k]? = some f → ∃ s news s',
      w.subscriptions[k]? = some (f.topic, s) ∧
      w.registry.poll? f.topic s = some (news, s') ∧
      (news = .changed ↔ ∃ e ∈ f.missed, e.replaces f.topic = true) ∧
      (news = .closed ↔ .ended ∈ h ∧ ¬∃ e ∈ f.missed, e.replaces f.topic = true) ∧
      (news = .pending ↔ .ended ∉ h ∧ ¬∃ e ∈ f.missed, e.replaces f.topic = true)) ∧
    (.ended ∉ h → ∀ config resolver,
      reg.Sees ((reg.vendors.map fun v => .rebuilt v config resolver).reverse ++ h)
        { w with registry := (w.registry.refresh config resolver).value.1 }) := by
  have hreg := Config.bootstrap_fresh hb
  have hvendors := (Config.bootstrap_holds hb).1.vendors_eq
  have hmem (v : String) : v ∈ reg.vendors ↔ v ∈ vendors := by rw [hvendors, List.mem_eraseDups]
  have hagree := hw.agree hreg
  refine ⟨fun v => ?_, fun v hv => ?_, hagree.length_eq, fun k f hf => ?_, fun hopen => ?_⟩
  · rw [← hmem, ← hw.vendors_eq, mem_vendors_iff, subscribe?, Option.isSome_map]
  · obtain ⟨first, hfirst, hchannel⟩ := Config.bootstrap_channel? hb hv
    obtain ⟨channel, hc, htells⟩ := hw.tells hchannel
    refine ⟨first, Config.built?_eq_some_iff.1 hfirst, ?_⟩
    rw [get?, hc, Option.map_some, htells.value]
  · have hrel := forall₂_getElem? hagree k
    rw [hf] at hrel
    generalize hs : w.subscriptions[k]? = s at hrel
    cases hrel with
    | @some s _ hrel =>
      obtain ⟨v, s⟩ := s
      obtain rfl : v = f.topic := hrel.topic
      obtain ⟨first, channel, -, hc, htells⟩ :=
        hw.channel hreg (hw.known _ (List.mem_of_getElem? hs))
      obtain ⟨hchanged, hclosed, hpending⟩ := hrel.poll_iff htells.version
      refine ⟨s, _, _, rfl, by rw [poll?, hc, Option.map_some], hchanged, ?_, ?_⟩
      · rw [hclosed, htells.closed]
      · rw [hpending, ← htells.closed, Bool.not_eq_true]
  · exact hw.refreshed hopen (hvendors ▸ nodup_eraseDups vendors)

/-- One vendor gets another directory and one keeps its own; then people subscribe to both. -/
def sampleNews : List Event :=
  [.subscribed "acme", .subscribed "bolt", .rebuilt "acme" sampleLost Resolver.addressesOnly,
    .rebuilt "bolt" sampleLost Resolver.addressesOnly]

/-- What that leads to. -/
def sampleFollowed : Followed where
  registry := ((sampleService sampleComplete).registry.rebuild sampleLost Resolver.addressesOnly
    "bolt").rebuild sampleLost Resolver.addressesOnly "acme"
  subscriptions := [("bolt", ⟨0⟩), ("acme", ⟨0⟩)]

theorem subscriptions_informed_sample :
    (sampleComplete.bootstrap Resolver.addressesOnly ["bolt", "acme", "bolt"]).value =
      .ok (sampleService sampleComplete).registry ∧
    (sampleService sampleComplete).registry.Sees sampleNews sampleFollowed ∧
    (∃ s, sampleFollowed.registry.poll? "bolt" ⟨0⟩ = some (.changed, s)) ∧
    ∃ s, sampleFollowed.registry.poll? "acme" ⟨0⟩ = some (.pending, s) := by
  have hboot : (sampleComplete.bootstrap Resolver.addressesOnly ["bolt", "acme", "bolt"]).value =
      .ok (sampleService sampleComplete).registry := rfl
  have hstart : (sampleService sampleComplete).registry.Sees []
    ⟨(sampleService sampleComplete).registry, []⟩ := .start
  have hrebuilt := (hstart.rebuilt "bolt" sampleLost Resolver.addressesOnly (by simp)).rebuilt
    "acme" sampleLost Resolver.addressesOnly (by simp)
  have hsees : (sampleService sampleComplete).registry.Sees sampleNews sampleFollowed :=
    (hrebuilt.subscribed rfl).subscribed rfl
  obtain ⟨-, -, -, hnews, -⟩ := subscriptions_informed hboot hsees
  obtain ⟨s, news, s', hs, hbolt, hchanged, -⟩ := hnews 0 _ rfl
  obtain ⟨t, news', t', ht, hacme, -, -, hpending⟩ := hnews 1 _ rfl
  obtain rfl : ⟨0⟩ = s := (Prod.mk.inj (Option.some.inj hs)).2
  obtain rfl : ⟨0⟩ = t := (Prod.mk.inj (Option.some.inj ht)).2
  obtain rfl := hchanged.2
    ⟨.rebuilt "bolt" sampleLost Resolver.addressesOnly, by simp [Follower.miss], rfl⟩
  have hacmeKept : sampleNews.any (Event.replaces "acme") = false := rfl
  obtain rfl := hpending.2 ⟨by simp [sampleNews], by
    rintro ⟨e, he, hreplaces⟩
    exact List.any_eq_false.1 hacmeKept e he hreplaces⟩
  exact ⟨hboot, hsees, ⟨s', hbolt⟩, t', hacme⟩

end Registry

end Egress
