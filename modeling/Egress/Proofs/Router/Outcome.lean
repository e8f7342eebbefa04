import Egress.Proofs.Router.Operation

/-!
# How restarts end

A restart changes nothing of a transport but its last health check (`restarted_frame`). One that
succeeds ends with a health check that matched (`restarted_ok`, `Effect.Confirms`). One that fails
leaves no health check that was `up` (`restarted_error`); as a restart that cannot be rendered
leaves the transport as it is, this needs that a transport only remembers an `up` if its restarts
can be rendered (`Trusted`), which every operation keeps.
-/

set_option autoImplicit false

namespace Egress

theorem RouterSettings.verdict_up_iff {r : RouterSettings}
    {result : Except TransportError String} :
    (r.verdict result).isUp = true ↔ ∃ output, result = .ok output ∧
      Text.occursIn r.check.pattern.toList output.toList = true := by
  cases result with
  | error e => simp [verdict, Connectivity.isUp]
  | ok output =>
    by_cases h : Text.occursIn r.check.pattern.toList output.toList = true <;>
      simp [verdict, h, Connectivity.isUp]

/-- Whether an effect is a health check whose output has the text to match. -/
def Effect.matched (r : RouterSettings) : Effect → Bool
  | .run .check _ result => (r.verdict result).isUp
  | _ => false

/-- An effect is a health check with the router's own command, and its output has the text to
match. -/
def Effect.Confirms (r : RouterSettings) (e : Effect) : Prop :=
  ∃ command output, e = .run .check command (.ok output) ∧ CommandOf r.check.command command ∧
    Text.occursIn r.check.pattern.toList output.toList = true

theorem Connectivity.ne_up_iff {c : Connectivity} : c ≠ .up ↔ c.isUp = false := by
  cases c <;> simp [isUp]

namespace Transport

/-! ## What can be rendered -/

/-- Both commands of a restart can be rendered. -/
def Restartable (t : Transport) : Prop :=
  ∃ stop start, t.command t.router.stopCommand = .ok stop ∧
    t.command t.router.startCommand = .ok start

/-- The settings of the router are `r`, and a health check is only remembered as `up` if restarts
can be rendered. -/
structure Trusted (t : Transport) (r : RouterSettings) : Prop where
  router : t.router = r
  restartable : t.lastProbe = .up → t.Restartable

theorem renders_iff (t t' : Transport) (template : String) :
    (∃ c, t.command template = .ok c) ↔ ∃ c, t'.command template = .ok c :=
  ok_iff_of_error_iff (command_eq_error_iff t t' template)

theorem restartable_iff {t t' : Transport} (h : t'.router = t.router) :
    t'.Restartable ↔ t.Restartable := by
  unfold Restartable
  rw [h]
  constructor
  · rintro ⟨stop, start, hstop, hstart⟩
    obtain ⟨stop', hstop'⟩ := (renders_iff t' t _).1 ⟨stop, hstop⟩
    obtain ⟨start', hstart'⟩ := (renders_iff t' t _).1 ⟨start, hstart⟩
    exact ⟨stop', start', hstop', hstart'⟩
  · rintro ⟨stop, start, hstop, hstart⟩
    obtain ⟨stop', hstop'⟩ := (renders_iff t t' _).1 ⟨stop, hstop⟩
    obtain ⟨start', hstart'⟩ := (renders_iff t t' _).1 ⟨start, hstart⟩
    exact ⟨stop', start', hstop', hstart'⟩

theorem Trusted.select {t : Transport} {r : RouterSettings} (h : t.Trusted r) (vendor exit : String)
    (path : List String) : (t.select vendor exit path).Trusted r := by
  have hr : (t.select vendor exit path).router = t.router := rfl
  exact ⟨h.router, fun hup => (restartable_iff hr).2 (h.restartable hup)⟩

theorem statusRead_ok {t : Transport} {es : List Effect} {text : String}
    (h : StatusRead t es (.ok text)) : ∃ command,
      t.command t.router.statusCommand = .ok command ∧ es = [.run .status command (.ok text)] := by
  cases h with
  | ran _ hc => exact ⟨_, hc, rfl⟩

/-! ## Polls -/

section
variable {n : Nat} {t : Transport} {es : List Effect} {x : Transport × Except RestartError Unit}

theorem probed_up (h : Probed t es .up) : ∃ e, es = [e] ∧ e.Confirms t.router := by
  generalize hc : Connectivity.up = c at h
  cases h with
  | unrendered => cases hc
  | ran reply hcommand =>
    have hup : (t.router.verdict reply).isUp = true := by
      rw [← hc]
      rfl
    obtain ⟨output, rfl, hm⟩ := RouterSettings.verdict_up_iff.1 hup
    exact ⟨_, rfl, _, output, rfl, commandOf hcommand, hm⟩

theorem polled_frame (h : Polled n t es x) : x.1 = { t with lastProbe := x.1.lastProbe } := by
  induction h with
  | timeout t => rfl
  | again _ _ _ ih => exact ih
  | up _ => rfl

theorem polled_ok (h : Polled n t es x) (hx : x.2 = .ok ()) :
    x.1.lastProbe = .up ∧ ∃ before e, es = before ++ [e] ∧ e.Confirms t.router := by
  induction h with
  | timeout t => cases hx
  | @again n t es es' c x hp hc _ ih =>
    obtain ⟨hup, before, e, rfl, he⟩ := ih hx
    exact ⟨hup, es ++ before, e, (List.append_assoc ..).symm, he⟩
  | up hp =>
    obtain ⟨e, rfl, he⟩ := probed_up hp
    exact ⟨rfl, [], e, rfl, he⟩

theorem polled_error {e : RestartError} (h : Polled n t es x) (hx : x.2 = .error e)
    (ht : t.lastProbe ≠ .up) : x.1.lastProbe ≠ .up := by
  induction h with
  | timeout t => exact ht
  | again _ hc _ ih => exact ih hx (Connectivity.ne_up_iff.2 hc)
  | up _ => cases hx

end

/-! ## Restarts -/

section
variable {t t' : Transport} {r : RouterSettings} {es : List Effect}

theorem restarted_frame {x : Except RestartError Unit} (h : Restarted t es (t', x)) :
    t' = { t with lastProbe := t'.lastProbe } := by
  cases h with
  | stopUnrendered => rfl
  | startUnrendered => rfl
  | stopFailed => rfl
  | startFailed => rfl
  | polled _ _ _ _ h => exact polled_frame h

theorem restarted_router {x : Except RestartError Unit} (h : Restarted t es (t', x)) :
    t'.router = t.router := by
  rw [restarted_frame h]

theorem restarted_ok (ht : t.router = r) (h : Restarted t es (t', .ok ())) :
    t.Restartable ∧ t'.lastProbe = .up ∧ ∃ before e, es = before ++ [e] ∧ e.Confirms r := by
  subst ht
  cases h with
  | @polled stop start o o' es _ hstop hstart h =>
    obtain ⟨hup, before, e, rfl, he⟩ := polled_ok h rfl
    exact ⟨⟨stop, start, hstop, hstart⟩, hup, .run .stop stop (.ok o) ::
      .run .start start (.ok o') :: before, e, rfl, he⟩

theorem restarted_error {e : RestartError} (ht : t.Trusted r)
    (h : Restarted t es (t', .error e)) : t'.lastProbe ≠ .up := by
  cases h with
  | stopUnrendered he =>
    -- the transport is as before, and could not have come to remember an `up`
    intro hup
    obtain ⟨stop, -, hstop, -⟩ := ht.restartable hup
    rw [he] at hstop
    cases hstop
  | startUnrendered he =>
    intro hup
    obtain ⟨-, start, -, hstart⟩ := ht.restartable hup
    rw [he] at hstart
    cases hstart
  | stopFailed => exact nofun
  | startFailed => exact nofun
  | polled _ _ _ _ h => exact polled_error h rfl nofun

theorem Restarted.trusted {x : Except RestartError Unit} (ht : t.Trusted r)
    (h : Restarted t es (t', x)) : t'.Trusted r := by
  have hr : t'.router = t.router := restarted_router h
  refine ⟨hr.trans ht.router, fun hup => ?_⟩
  cases x with
  | ok u => exact (restartable_iff hr).2 (restarted_ok rfl h).1
  | error e => exact absurd hup (restarted_error ht h)

end

end Transport

end Egress
