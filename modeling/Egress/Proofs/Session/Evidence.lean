import Egress.Proofs.Router.Outcome
import Egress.Proofs.Session.Calls

/-!
# What is published as up was checked

Everything that is done to the router either bears on whether the tunnel is up or does not
(`Effect.decisive`): health checks, stopping and starting, and configurations that get installed do.
A tunnel is `Confirmed` when the last decisive effect is a health check that matched. Whatever a
session publishes and whatever it holds between calls is `Backed`: it says `up` only of a tunnel
that is confirmed, and shows the label that belongs to its connectivity. One call keeps this
(`did_backed`, `published_backed`), so every course of calls does (`serves_backed`).
-/

set_option autoImplicit false

namespace Egress

/-- Whether an effect bears on whether the tunnel is up. -/
def Effect.decisive : Effect → Bool
  | .run .status _ _ => false
  | .run _ _ _ => true
  | .install _ _ _ result => result.isOk

/-- The last decisive effect is a health check with the router's own command, which matched. -/
def Confirmed (r : RouterSettings) (es : List Effect) : Prop :=
  ∃ command output, latest Effect.decisive es = some (.run .check command (.ok output)) ∧
    CommandOf r.check.command command ∧
    Text.occursIn r.check.pattern.toList output.toList = true

/-- A published state shows the label of its connectivity, and is only up if the tunnel is
confirmed. -/
structure TunnelState.Backed (r : RouterSettings) (es : List Effect) (s : TunnelState) : Prop where
  confirmed : s.connectivity = .up → Confirmed r es
  label : s.label = s.connectivity.label

section
variable {r : RouterSettings} {es es' : List Effect}

theorem confirmed_of_confirms {e : Effect} (h : e.Confirms r) : Confirmed r (es ++ [e]) := by
  obtain ⟨command, output, rfl, hm⟩ := h
  exact ⟨command, output, latest_of_pos rfl, hm⟩

theorem Confirmed.append (h : Confirmed r es) (hes : ∀ e ∈ es', e.decisive = false) :
    Confirmed r (es ++ es') := by
  obtain ⟨command, output, hl, hm⟩ := h
  exact ⟨command, output, (latest_append_of_neg hes).trans hl, hm⟩

namespace TunnelState

variable {s : TunnelState}

theorem backed_setConnectivity {c : Connectivity} (h : c = .up → Confirmed r es) :
    (s.setConnectivity c).Backed r es :=
  ⟨h, rfl⟩

theorem backed_broughtUp {x : Selection} {text : String} (h : Confirmed r es) :
    (s.broughtUp x text).Backed r es :=
  ⟨fun _ => h, rfl⟩

theorem Backed.withStatus {text : String} (h : s.Backed r es) : (s.withStatus text).Backed r es :=
  ⟨h.confirmed, h.label⟩

theorem Backed.append (h : s.Backed r es) (hes : ∀ e ∈ es', e.decisive = false) :
    s.Backed r (es ++ es') :=
  ⟨fun hup => (h.confirmed hup).append hes, h.label⟩

end TunnelState

end

namespace Transport

theorem statusRead_quiet {t : Transport} {es : List Effect} {r : Except TransportError String}
    (h : StatusRead t es r) : ∀ e ∈ es, e.decisive = false := by
  cases h with
  | unrendered => exact List.forall_mem_nil _
  | ran => simp [Effect.decisive]

theorem pushed_error_quiet {t : Transport} {vendor exit : String} {l : List (Exchange Router)}
    {e : TransportError} (h : Pushed t vendor exit l (.error e)) :
    ∀ x ∈ Router.effects l, x.decisive = false := by
  cases h <;> simp [Effect.decisive, Except.isOk, Except.toBool]

section
variable {t t' : Transport} {r : RouterSettings} {es es' : List Effect} (ht : t.router = r)
include ht

theorem probed_confirmed (h : Probed t es' .up) : Confirmed r (es ++ es') := by
  obtain ⟨e, rfl, he⟩ := probed_up h
  exact confirmed_of_confirms (ht ▸ he)

theorem restarted_confirmed (h : Restarted t es' (t', .ok ())) : Confirmed r (es ++ es') := by
  obtain ⟨-, -, before, e, rfl, he⟩ := restarted_ok ht h
  rw [← List.append_assoc]
  exact confirmed_of_confirms he

theorem brought_confirmed {es'' : List Effect} {x : Except TransportError String}
    (h : Restarted t es' (t', .ok ())) (hs : StatusRead t' es'' x) :
    Confirmed r (es ++ (es' ++ es'')) := by
  rw [← List.append_assoc]
  exact (restarted_confirmed ht h).append (statusRead_quiet hs)

end

end Transport

namespace Session

open SessionAccess

/-! ## One call -/

section
variable {t t' : Transport} {v v' : Channel TunnelState} {l : List (Exchange SessionAccess)}
  {r : RouterSettings} {es : List Effect}

theorem effects_pointed {vendor exit : String} {path : List String}
    {x : Except TransportError Unit} (h : Pointed vendor exit t path l x) :
    ∃ e, Transport.Pushed t vendor exit e x ∧ effects l = Router.effects e := by
  cases h with
  | @pushed d e r _ _ hp =>
    refine ⟨e, hp, ?_⟩
    exact effects_map_lift (⟨.note (selecting vendor exit path), ()⟩ :: e)

section
variable {s : Selection}

theorem broughtUp_backed {x : Except SelectError TunnelState} (ht : t.Trusted r)
    (hv : v.value.Backed r es) (hdown : v.value.connectivity = .down)
    (h : BroughtUp s t v l t' v' x) : v'.value.Backed r (es ++ effects l) := by
  cases h with
  | restartFailed n hr =>
    refine TunnelState.backed_setConnectivity fun hup => ?_
    exact absurd hup (Transport.restarted_error ht hr)
  | statusFailed hr hs =>
    -- nothing was published since the tunnel was reported down
    refine ⟨fun hup => ?_, hv.label⟩
    rw [hdown] at hup
    cases hup
  | up hr hs =>
    refine TunnelState.backed_broughtUp ?_
    simpa using Transport.brought_confirmed ht.router hr hs

theorem bringUpPublished_backed (ht : t.Trusted r) (h : BringUpPublished s t v l v') :
    v'.value.Backed r (es ++ effects l) := by
  cases h with
  | restartFailed hr =>
    refine TunnelState.backed_setConnectivity fun hup => ?_
    exact absurd hup (Transport.restarted_error ht hr)
  | up hr hs =>
    refine TunnelState.backed_broughtUp ?_
    simpa using Transport.brought_confirmed ht.router hr hs

theorem broughtUp_frame {x : Except SelectError TunnelState} (h : BroughtUp s t v l t' v' x) :
    t' = { t with lastProbe := t'.lastProbe } := by
  cases h with
  | restartFailed n hr => exact Transport.restarted_frame hr
  | statusFailed hr hs => exact Transport.restarted_frame hr
  | up hr hs => exact Transport.restarted_frame hr

theorem broughtUp_trusted {x : Except SelectError TunnelState} (ht : t.Trusted r)
    (h : BroughtUp s t v l t' v' x) : t'.Trusted r := by
  cases h with
  | restartFailed n hr => exact hr.trusted ht
  | statusFailed hr hs => exact hr.trusted ht
  | up hr hs => exact hr.trusted ht

end

theorem did_trusted {c : Call} {x : c.Result} (ht : t.Trusted r) (h : c.Did t v l t' v' x) :
    t'.Trusted r := by
  cases c with
  | select vendor exit =>
    cases h with
    | unknownVendor => exact ht
    | exitNotFound => exact ht
    | pushFailed => exact ht
    | pushed _ hb => exact broughtUp_trusted (ht.select _ _ _) hb
  | check =>
    obtain ⟨rfl, -⟩ := h
    exact ht
  | refreshStatus =>
    obtain ⟨rfl, -⟩ := h
    exact ht

/-- After a call, what is published is backed, if it was before. -/
theorem did_backed {c : Call} {x : c.Result} (ht : t.Trusted r) (hv : v.value.Backed r es)
    (h : c.Did t v l t' v' x) : v'.value.Backed r (es ++ effects l) := by
  cases c with
  | select vendor exit =>
    cases h with
    | unknownVendor => simpa using hv
    | exitNotFound => simpa using hv
    | pushFailed hp =>
      obtain ⟨e, hp, he⟩ := effects_pointed hp
      rw [effects_append, he]
      exact hv.append (by simpa using Transport.pushed_error_quiet hp)
    | pushed hp hb =>
      rw [effects_append, effects_publish, effects_append, effects_release, effects_nil,
        List.append_nil, ← List.append_assoc]
      refine broughtUp_backed (ht.select _ _ _) ?_ rfl hb
      exact TunnelState.backed_setConnectivity nofun
  | check =>
    obtain ⟨rfl, ⟨hp⟩⟩ := h
    refine TunnelState.backed_setConnectivity fun hup => ?_
    subst hup
    simpa using Transport.probed_confirmed ht.router hp
  | refreshStatus =>
    obtain ⟨rfl, h⟩ := h
    cases h with
    | failed hs => exact hv.append (by simpa using Transport.statusRead_quiet hs)
    | published hs => exact hv.withStatus.append (by simpa using Transport.statusRead_quiet hs)

/-- What a call publishes is backed, if what was published before it is. -/
theorem published_backed {c : Call} (ht : t.Trusted r) (hv : v.value.Backed r es)
    (h : c.Published t v l v') : v'.value.Backed r (es ++ effects l) := by
  cases c with
  | select vendor exit =>
    cases h with
    | down => exact TunnelState.backed_setConnectivity nofun
    | later hp hb =>
      rw [effects_append, effects_publish, ← List.append_assoc]
      exact bringUpPublished_backed (ht.select _ _ _) hb
  | check =>
    obtain ⟨hp⟩ := h
    refine TunnelState.backed_setConnectivity fun hup => ?_
    subst hup
    simpa using Transport.probed_confirmed ht.router hp
  | refreshStatus =>
    obtain ⟨hs⟩ := h
    exact hv.withStatus.append (by simpa using Transport.statusRead_quiet hs)

/-- A selection that fails after its configuration was installed does not leave the tunnel up. -/
theorem selected_error_down {vendor exit : String} {e : SelectError} (ht : t.Trusted r)
    (h : Selected vendor exit t v l t' v' (.error e)) {content destination : String} {mode : Nat}
    (hi : .install content destination mode (.ok ()) ∈ effects l) :
    v'.value.connectivity ≠ .up := by
  cases h with
  | unknownVendor => simp at hi
  | exitNotFound => simp at hi
  | pushFailed hp =>
    obtain ⟨e, hp, he⟩ := effects_pointed hp
    rw [effects_append, he, effects_release, effects_nil, List.append_nil] at hi
    cases Transport.pushed_error_quiet hp _ hi
  | pushed hp hb =>
    cases hb with
    | restartFailed n hr => exact Transport.restarted_error (ht.select _ _ _) hr
    | statusFailed => exact nofun

end

/-! ## Courses -/

section
variable {registry : Registry} {r : RouterSettings} {templates : List (String × String)}
  {h : List Performed} {s : Session}

theorem serves_trusted (hs : (fresh registry r templates).Serves h s) : s.transport.Trusted r := by
  induction hs with
  | start => exact ⟨rfl, nofun⟩
  | call c _ hm ih => exact did_trusted ih hm.did

/-- What is published after any calls is backed by what they did to the router. -/
theorem serves_backed (hs : (fresh registry r templates).Serves h s) :
    s.published.value.Backed r (h.flatMap Performed.effects) := by
  induction hs with
  | start => exact ⟨nofun, rfl⟩
  | call c hs hm ih =>
    rw [List.flatMap_append, List.flatMap_singleton]
    exact did_backed (serves_trusted hs) ih hm.did

/-- Whatever calls were made before, everything a call publishes is backed by all that was done to
the router until then, and so is what is published between calls; a selection that fails after its
configuration was installed leaves the tunnel other than up. -/
theorem published_up_confirmed (hs : (fresh registry r templates).Serves h s) :
    s.published.value.Backed r (h.flatMap Performed.effects) ∧
    (∀ (c : Call) (l : List (Exchange SessionAccess)) (change : TunnelState → TunnelState)
        (s' : Session) (p : Procedure SessionAccess c.Result),
      s.Makes c.procedure (l ++ [⟨.publish change, ()⟩]) s' p →
      s'.published.value.Backed r (h.flatMap Performed.effects ++ effects l)) ∧
    ∀ (vendor exit : String) (l : List (Exchange SessionAccess)) (s' : Session) (e : SelectError)
        (content destination : String) (mode : Nat),
      s.Makes (select vendor exit) l s' (.done (.error e)) →
      .install content destination mode (.ok ()) ∈ effects l →
      s'.published.value.connectivity ≠ .up := by
  have ht := serves_trusted hs
  refine ⟨serves_backed hs, fun c l change s' p hm => ?_, fun vendor exit l s' e _ _ _ hm hi => ?_⟩
  · have := published_backed ht (serves_backed hs) hm.published
    rwa [effects_append, effects_publish, effects_nil, List.append_nil] at this
  · have hm' : s.Makes (Call.select vendor exit).procedure l s' (.done (.error e)) := hm
    exact selected_error_down ht hm'.did hi

/-- A selection that worked. -/
theorem published_up_confirmed_sample :
    ∃ h s, Sample.session.Serves h s ∧ s.published.value.connectivity = .up ∧
      Confirmed Sample.settings (h.flatMap Performed.effects) := by
  have hs := Sample.serves_after .start rfl [] (.select "acme" "a")
  have hup : (Sample.after [] (.select "acme" "a") Sample.session).published.value.connectivity
      = .up := by decide +kernel
  exact ⟨_, _, hs, hup, (published_up_confirmed hs).1.confirmed hup⟩

end

end Session

end Egress
