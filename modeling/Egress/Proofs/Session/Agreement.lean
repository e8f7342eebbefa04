import Egress.Proofs.Session.Evidence
import Egress.Proofs.Session.History

/-!
# The published selection and the installed one

What the router was last configured for stands in the transport: it is the selection of the last
call that installed a configuration (`Configured`). What is published is the last selection that
succeeded, and stays when a later one fails half way. The two are the same as long as the last
selection that installed a configuration also succeeded (`Settled`, `serves_agrees`); without that,
a health check can publish the tunnel as up through an exit that the router has left.
-/

set_option autoImplicit false

namespace Egress

/-- Whether an effect is a configuration that got installed. -/
def Effect.installs : Effect → Bool
  | .install _ _ _ (.ok _) => true
  | _ => false

/-- The call installed a configuration. -/
def Performed.installed (p : Performed) : Bool :=
  p.effects.any Effect.installs

namespace Transport

section
variable {t t' : Transport} {es : List Effect}

theorem probed_installs {c : Connectivity} (h : Probed t es c) :
    es.any Effect.installs = false := by
  cases h with
  | unrendered => rfl
  | ran => rfl

theorem statusRead_installs {r : Except TransportError String} (h : StatusRead t es r) :
    es.any Effect.installs = false := by
  cases h with
  | unrendered => rfl
  | ran => rfl

theorem pushed_error_installs {vendor exit : String} {l : List (Exchange Router)}
    {e : TransportError} (h : Pushed t vendor exit l (.error e)) :
    (Router.effects l).any Effect.installs = false := by
  cases h <;> rfl

theorem pushed_ok_installs {vendor exit : String} {l : List (Exchange Router)}
    (h : Pushed t vendor exit l (.ok ())) : (Router.effects l).any Effect.installs = true := by
  cases h
  rfl

end

end Transport

namespace Session

open SessionAccess

/-- The router was last configured by the last call that installed a configuration, for the exit it
asks for. -/
def Configured (h : List Performed) (t : Transport) : Prop :=
  match latest Performed.installed h with
  | none => t.selection = none
  | some p => ∃ x, t.selection = some x ∧ p.call = .select x.vendor x.exit

/-- The last call that installed a configuration succeeded. -/
def Settled (h : List Performed) : Prop :=
  ∀ p, latest Performed.installed h = some p → p.selected = true

/-- Vendor and exit of the published state are those of a selection, if there is one. -/
def Shows (s : TunnelState) (x : Option Selection) : Prop :=
  s.vendor = x.map Selection.vendor ∧ s.exit = x.map Selection.exit

theorem Shows.selection {s : TunnelState} {x : Option Selection} {vendor exit : String}
    (h : Shows s x) (hvendor : s.vendor = some vendor) (hexit : s.exit = some exit) :
    ∃ path, x = some ⟨vendor, exit, path⟩ := by
  obtain ⟨hv, he⟩ := h
  rw [hv, Option.map_eq_some_iff] at hvendor
  obtain ⟨y, rfl, rfl⟩ := hvendor
  obtain rfl := Option.some.inj (he.symm.trans hexit)
  exact ⟨y.path, rfl⟩

/-! ## One call -/

section
variable {t t' : Transport} {v v' : Channel TunnelState} {l : List (Exchange SessionAccess)}
  {vendor exit : String} {path : List String} {h : List Performed}

theorem installs_of_pointed (hp : Pointed vendor exit t path l (.ok ()))
    (l' : List (Exchange SessionAccess)) : (effects (l ++ l')).any Effect.installs = true := by
  obtain ⟨e, hp, he⟩ := effects_pointed hp
  rw [effects_append, he, List.any_append, Transport.pushed_ok_installs hp, Bool.true_or]

/-- A call that installs nothing leaves the transport's selection and the published one. -/
theorem did_kept {c : Call} {x : c.Result} (hd : c.Did t v l t' v' x)
    (hi : (effects l).any Effect.installs = false) :
    t'.selection = t.selection ∧ v'.value.vendor = v.value.vendor ∧
      v'.value.exit = v.value.exit := by
  cases c with
  | select vendor exit =>
    cases hd with
    | unknownVendor => exact ⟨rfl, rfl, rfl⟩
    | exitNotFound => exact ⟨rfl, rfl, rfl⟩
    | pushFailed => exact ⟨rfl, rfl, rfl⟩
    | pushed hp hb =>
      rw [installs_of_pointed hp] at hi
      cases hi
  | check =>
    obtain ⟨rfl, hc⟩ := hd
    cases hc
    exact ⟨rfl, rfl, rfl⟩
  | refreshStatus =>
    obtain ⟨rfl, hc⟩ := hd
    cases hc with
    | failed => exact ⟨rfl, rfl, rfl⟩
    | published => exact ⟨rfl, rfl, rfl⟩

/-- A call that installs a configuration is a selection; the transport then has its exit, and if it
succeeds the published state as well. -/
theorem did_installed {c : Call} {x : c.Result} (hd : c.Did t v l t' v' x)
    (hi : (effects l).any Effect.installs = true) :
    ∃ s, t'.selection = some s ∧ c = .select s.vendor s.exit ∧
      ((⟨c, l, x⟩ : Performed).selected = true → Shows v'.value (some s)) := by
  cases c with
  | select vendor exit =>
    cases hd with
    | unknownVendor => cases hi
    | exitNotFound => cases hi
    | pushFailed hp =>
      obtain ⟨e, hp, he⟩ := effects_pointed hp
      rw [effects_append, he, List.any_append, Transport.pushed_error_installs hp] at hi
      cases hi
    | @pushed path _ _ _ _ _ hp hb =>
      refine ⟨⟨vendor, exit, path⟩, ?_, rfl, ?_⟩
      · rw [broughtUp_frame hb]
        rfl
      · intro hs
        cases hb with
        | restartFailed => cases hs
        | statusFailed => cases hs
        | up => exact ⟨rfl, rfl⟩
  | check =>
    obtain ⟨rfl, ⟨hp⟩⟩ := hd
    simp [Transport.probed_installs hp] at hi
  | refreshStatus =>
    obtain ⟨rfl, hc⟩ := hd
    cases hc with
    | failed hs => simp [Transport.statusRead_installs hs] at hi
    | published hs => simp [Transport.statusRead_installs hs] at hi

/-- What a call publishes as up shows the exit of the call, if it has installed its configuration,
and else what was shown before. -/
theorem published_shows {c : Call} {r : RouterSettings} (ht : t.Trusted r)
    (hd : c.Published t v l v') (hup : v'.value.connectivity = .up) :
    if (effects l).any Effect.installs then
      ∃ s : Selection, c = .select s.vendor s.exit ∧ Shows v'.value (some s)
    else v'.value.vendor = v.value.vendor ∧ v'.value.exit = v.value.exit := by
  cases c with
  | select vendor exit =>
    cases hd with
    | down => cases hup
    | @later path _ _ _ hp hb =>
      cases hb with
      | restartFailed hr => exact absurd hup (Transport.restarted_error (ht.select _ _ _) hr)
      | up hr hs =>
        rw [installs_of_pointed hp]
        exact ⟨⟨vendor, exit, path⟩, rfl, rfl, rfl⟩
  | check =>
    obtain ⟨hp⟩ := hd
    rw [if_neg (by simp [Transport.probed_installs hp])]
    exact ⟨rfl, rfl⟩
  | refreshStatus =>
    obtain ⟨hs⟩ := hd
    rw [if_neg (by simp [Transport.statusRead_installs hs])]
    exact ⟨rfl, rfl⟩

end

/-! ## Courses -/

section
variable {registry : Registry} {r : RouterSettings} {templates : List (String × String)}
  {h : List Performed} {s : Session}

theorem serves_configured (hs : (fresh registry r templates).Serves h s) :
    Configured h s.transport := by
  induction hs with
  | start => rfl
  | @call h s s' l c x hs hm ih =>
    -- only a call that installed a configuration is one that `latest` can pick
    unfold Configured
    cases hi : (effects l).any Effect.installs with
    | false =>
      have hp : (⟨c, l, x⟩ : Performed).installed = false := hi
      rw [latest_append_of_neg (by simpa using hp), (did_kept hm.did hi).1]
      exact ih
    | true =>
      have hp : (⟨c, l, x⟩ : Performed).installed = true := hi
      obtain ⟨y, hy, hc, -⟩ := did_installed hm.did hi
      rw [latest_of_pos hp]
      exact ⟨y, hy, hc⟩

/-- While the last selection that installed a configuration succeeded, the published state shows the
selection of the transport. -/
theorem serves_agrees (hs : (fresh registry r templates).Serves h s) (hh : Settled h) :
    Shows s.published.value s.transport.selection := by
  induction hs with
  | start => exact ⟨rfl, rfl⟩
  | @call h s s' l c x hs hm ih =>
    cases hi : (effects l).any Effect.installs with
    | false =>
      have hp : (⟨c, l, x⟩ : Performed).installed = false := hi
      obtain ⟨ht, hv, he⟩ := did_kept hm.did hi
      have hh' : Settled h := by
        intro p hlast
        exact hh p ((latest_append_of_neg (by simpa using hp)).trans hlast)
      obtain ⟨ihv, ihe⟩ := ih hh'
      rw [ht]
      exact ⟨hv.trans ihv, he.trans ihe⟩
    | true =>
      have hp : (⟨c, l, x⟩ : Performed).installed = true := hi
      obtain ⟨y, hy, -, hshows⟩ := did_installed hm.did hi
      rw [hy]
      exact hshows (hh _ (latest_of_pos hp))

/-- The transport's selection is the one that was installed last. Whenever the tunnel is published
as up through an exit, that exit is the installed one, provided that the selection that installed it
did not fail afterwards; this holds between calls and of everything a call publishes. -/
theorem published_up_installed (hs : (fresh registry r templates).Serves h s) :
    Configured h s.transport ∧
    (∀ vendor exit, Settled h → s.published.value.connectivity = .up →
      s.published.value.vendor = some vendor → s.published.value.exit = some exit →
      ∃ path, s.transport.selection = some ⟨vendor, exit, path⟩) ∧
    ∀ (c : Call) (l : List (Exchange SessionAccess)) (change : TunnelState → TunnelState)
        (s' : Session) (p : Procedure SessionAccess c.Result) (vendor exit : String),
      s.Makes c.procedure (l ++ [⟨.publish change, ()⟩]) s' p →
      s'.published.value.connectivity = .up →
      s'.published.value.vendor = some vendor → s'.published.value.exit = some exit →
      if (effects l).any Effect.installs then c = .select vendor exit
      else Settled h → ∃ path, s.transport.selection = some ⟨vendor, exit, path⟩ := by
  refine ⟨serves_configured hs, fun vendor exit hh _ hv he => ?_,
    fun c l change s' p vendor exit hm hup hv he => ?_⟩
  · exact (serves_agrees hs hh).selection hv he
  · have hp := published_shows (serves_trusted hs) hm.published hup
    rw [effects_append, effects_publish, effects_nil, List.append_nil] at hp
    split
    · rename_i hi
      rw [if_pos hi] at hp
      obtain ⟨x, rfl, hxv, hxe⟩ := hp
      rw [hxv] at hv
      rw [hxe] at he
      obtain rfl := Option.some.inj hv
      obtain rfl := Option.some.inj he
      rfl
    · rename_i hi
      rw [if_neg hi] at hp
      intro hh
      exact (serves_agrees hs hh).selection (hp.1 ▸ hv) (hp.2 ▸ he)

/-- A selection that worked. -/
theorem published_up_installed_sample :
    ∃ h s, Sample.session.Serves h s ∧ Settled h ∧ s.published.value.connectivity = .up ∧
      ∃ path, s.transport.selection = some ⟨"acme", "a", path⟩ := by
  have hs := Sample.serves_after .start rfl [] (.select "acme" "a")
  have hh : Settled ([] ++ [Sample.performed [] (.select "acme" "a") Sample.session]) := by
    intro p hp
    obtain rfl := List.mem_singleton.1 (mem_of_latest hp)
    decide +kernel
  have hup : (Sample.after [] (.select "acme" "a") Sample.session).published.value.connectivity
      = .up := by decide +kernel
  exact ⟨_, _, hs, hh, hup, (published_up_installed hs).2.1 "acme" "a" hh hup (by decide +kernel)
    (by decide +kernel)⟩

/-- The tunnel is published as up through one exit while the router has been configured for another:
the selection of the second failed when the tunnel was started, and then a health check matched. -/
theorem published_up_exit_left :
    ∃ h s, Sample.session.Serves h s ∧ s.published.value.connectivity = .up ∧
      s.published.value.vendor = some "acme" ∧ s.published.value.exit = some "a" ∧
      s.transport.selection = some ⟨"acme", "b", []⟩ := by
  have h₁ := Sample.serves_after .start rfl [] (.select "acme" "a")
  have hr := Sample.registry_after [] (.select "acme" "a") Sample.session
  have h₂ := Sample.serves_after h₁ hr ["start b"] (.select "acme" "b")
  have h₃ := Sample.serves_after h₂ ((Sample.registry_after ..).trans hr) ["start b"] .check
  refine ⟨_, _, h₃, ?_, ?_, ?_, ?_⟩
  all_goals decide +kernel

end

end Session

end Egress
