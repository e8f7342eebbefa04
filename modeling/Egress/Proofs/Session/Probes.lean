import Egress.Proofs.Router.Sequence
import Egress.Proofs.Router.Shape
import Egress.Proofs.Session.Evidence

/-!
# Which health checks a transport remembers

Of everything done to a router, stopping the tunnel and health checks bear on what is known of it
(`Effect.probing`), and the last of these says what (`RouterSettings.known`). A transport remembers
the health checks of its restarts, and commands are told of these (`Transport.Remembers`). A health
check made alone, by an operation of its own or by a call of `check`, is not remembered: what a
transport remembers is out of date exactly when the last that bears on it is such a health check and
came out differently. This holds after any operations on a transport (`operates_recalls`) and after
any calls on a session (`serves_recalls`).
-/

set_option autoImplicit false

namespace Egress

/-! ## What is known of a tunnel -/

/-- Whether an effect bears on what is known of the tunnel. -/
def Effect.probing : Effect → Bool
  | .run .stop _ _ => true
  | .run .check _ _ => true
  | _ => false

theorem Effect.not_isCheck_of_quiet {e : Effect} (h : e.probing = false) : e.isCheck = false := by
  unfold isCheck
  split
  · cases h
  · rfl

/-- What an effect that bears on it says about the tunnel: nothing, if it is no health check. -/
def Effect.outcome (r : RouterSettings) : Effect → Connectivity
  | .run .check _ reply => r.verdict reply
  | _ => .unknown

/-- What is known of the tunnel after some effects, if `c` was before. -/
def RouterSettings.known (r : RouterSettings) (c : Connectivity) (es : List Effect) :
    Connectivity :=
  ((latest Effect.probing es).map (Effect.outcome r)).getD c

namespace RouterSettings

variable {r : RouterSettings} {c : Connectivity} {es es' : List Effect}

theorem known_append : r.known c (es ++ es') = r.known (r.known c es) es' := by
  unfold known
  rw [latest_append]
  cases latest Effect.probing es' <;> rfl

theorem known_of_quiet (h : ∀ e ∈ es, e.probing = false) : r.known c es = c := by
  rw [known, latest_eq_none_iff.2 h]
  rfl

theorem known_of_unchecked (h : ∀ e ∈ es, e.isCheck = false) : r.known .unknown es = .unknown := by
  unfold known
  cases hl : latest Effect.probing es with
  | none => rfl
  | some e =>
    have he := h e (mem_of_latest hl)
    unfold Effect.isCheck at he
    show e.outcome r = .unknown
    unfold Effect.outcome
    split <;> simp_all

theorem known_of_probing {e : Effect} (h : e.probing = true) : r.known c [e] = e.outcome r := by
  simp [known, latest, h]

end RouterSettings

/-! ## Histories -/

/-- Something done to the router, and whether it is a health check made alone. -/
structure Deed where
  alone : Bool
  effect : Effect

namespace Deed

/-- Everything done to the router. -/
def all (ds : List Deed) : List Effect :=
  ds.map effect

/-- What was done to the router apart from health checks made alone. -/
def others (ds : List Deed) : List Effect :=
  all (ds.filter fun d => !d.alone)

/-- Effects that are all those of health checks made alone, or none of them. -/
def ofEffects (alone : Bool) (es : List Effect) : List Deed :=
  es.map (mk alone)

section
variable {ds ds' : List Deed} {es : List Effect} {r : RouterSettings}

theorem others_append : others (ds ++ ds') = others ds ++ others ds' := by
  simp [others, all]

theorem others_ofEffects_true : others (ofEffects true es) = [] := by
  simp [others, all, ofEffects]

theorem others_ofEffects_false : others (ofEffects false es) = es := by
  simp [others, all, ofEffects, List.filter_map, Function.comp_def]

theorem ofEffects_append {alone : Bool} {es' : List Effect} :
    ofEffects alone (es ++ es') = ofEffects alone es ++ ofEffects alone es' :=
  List.map_append

theorem all_append : all (ds ++ ds') = all ds ++ all ds' :=
  List.map_append

theorem all_ofEffects {alone : Bool} : all (ofEffects alone es) = es := by
  simp [all, ofEffects, Function.comp_def]

theorem mem_all_of_mem_others {e : Effect} (h : e ∈ others ds) : e ∈ all ds := by
  obtain ⟨d, hd, rfl⟩ := List.mem_map.1 h
  exact List.mem_map_of_mem (List.mem_filter.1 hd).1

theorem latest_all :
    latest Effect.probing (all ds) = (latest (fun d => d.effect.probing) ds).map effect := by
  simp [latest, all, List.filter_map, List.getLast?_map, Function.comp_def]

/-- The last that bears on the tunnel is also the last of the others, unless it was made alone. -/
theorem latest_others {d : Deed} (h : latest (fun d => d.effect.probing) ds = some d)
    (hd : d.alone = false) : latest Effect.probing (others ds) = some d.effect := by
  rw [others, latest_all]
  unfold latest at h ⊢
  rw [List.filter_filter, List.filter_congr fun d _ => Bool.and_comm _ _, ← List.filter_filter]
  obtain ⟨l, hl⟩ := List.getLast?_eq_some_iff.1 h
  rw [hl, List.filter_append]
  simp [hd]

/-- What all effects say differs from what the others say just if the last that bears on the tunnel
was made alone and says something else. -/
theorem known_all_ne_iff :
    r.known .unknown (all ds) ≠ r.known .unknown (others ds) ↔
      ∃ d, latest (fun d => d.effect.probing) ds = some d ∧ d.alone = true ∧
        d.effect.outcome r ≠ r.known .unknown (others ds) := by
  have hall : r.known .unknown (all ds) =
      ((latest (fun d => d.effect.probing) ds).map fun d => d.effect.outcome r).getD .unknown := by
    rw [RouterSettings.known, latest_all, Option.map_map]
    rfl
  rw [hall]
  cases hl : latest (fun d => d.effect.probing) ds with
  | none =>
    have hquiet : ∀ e ∈ others ds, e.probing = false := by
      intro e he
      obtain ⟨d, hd, rfl⟩ := List.mem_map.1 he
      exact latest_eq_none_iff.1 hl d (List.mem_filter.1 hd).1
    simp [RouterSettings.known_of_quiet hquiet]
  | some d =>
    cases hd : d.alone with
    | false => simp [RouterSettings.known, latest_others hl hd, hd]
    | true => simp [hd]

end

end Deed

/-! ## Operations on a transport -/

namespace Transport

/-- An operation on a transport. -/
inductive Operation where
  | probe
  | restart
  | select (vendor exit : String) (path : List String)
  | status
  | push (vendor exit : String)
  deriving DecidableEq, Repr

/-- Carries out an operation; the transport afterwards. -/
def Operation.procedure (t : Transport) : Operation → Procedure Router Transport
  | probe => do
    let _ ← t.probe
    return t
  | restart => do
    let (t, _) ← t.restart
    return t
  | select vendor exit path => return t.select vendor exit path
  | status => do
    let _ ← t.status
    return t
  | push vendor exit => do
    let _ ← t.push vendor exit
    return t

/-- Operations were carried out one after the other, with any replies; these are their effects. -/
inductive Operates (t₀ : Transport) : List Deed → Transport → Prop
  | start : Operates t₀ [] t₀
  | operate {ds : List Deed} {t t' : Transport} {l : List (Exchange Router)} (o : Operation) :
      Operates t₀ ds t → (o.procedure t).Ends l t' →
      Operates t₀ (ds ++ Deed.ofEffects (o = .probe) (Router.effects l)) t'

/-- The transport remembers the health checks of its restarts (module doc). If health checks cannot
be rendered, none was ever made and nothing is known. -/
structure Remembers (r : RouterSettings) (ds : List Deed) (t : Transport) : Prop where
  lastProbe : t.lastProbe = r.known .unknown (Deed.others ds)
  connected : t.commandState.templateVariables "Connected" = some t.lastProbe.label
  outdated_iff : t.lastProbe ≠ r.known .unknown (Deed.all ds) ↔
    ∃ d, latest (fun d => d.effect.probing) ds = some d ∧ d.alone = true ∧
      d.effect.outcome r ≠ t.lastProbe
  unrendered : (∃ e, t.command r.check.command = .error e) →
    t.lastProbe = .unknown ∧ ∀ e ∈ Deed.all ds, e.isCheck = false

/-! ## One step -/

/-- From one transport to another with these effects the health checks are remembered, unless they
are made alone. -/
structure Advances (alone : Bool) (es : List Effect) (t t' : Transport) : Prop where
  router : t'.router = t.router
  lastProbe : t'.lastProbe = t.router.known t.lastProbe (Deed.others (Deed.ofEffects alone es))
  unrendered : (∃ e, t.command t.router.check.command = .error e) → ∀ e ∈ es, e.isCheck = false

section
variable {t t' : Transport} {es : List Effect} {alone : Bool}

theorem advances_of_quiet (hr : t'.router = t.router) (hp : t'.lastProbe = t.lastProbe)
    (h : ∀ e ∈ es, e.probing = false) : Advances alone es t t' := by
  refine ⟨hr, ?_, fun _ e he => Effect.not_isCheck_of_quiet (h e he)⟩
  cases alone with
  | true => rw [Deed.others_ofEffects_true, hp]; rfl
  | false => rw [Deed.others_ofEffects_false, RouterSettings.known_of_quiet h, hp]

theorem Advances.trans {t'' : Transport} {es' : List Effect} (h : Advances alone es t t')
    (h' : Advances alone es' t' t'') : Advances alone (es ++ es') t t'' := by
  refine ⟨h'.router.trans h.router, ?_, fun he e hmem => ?_⟩
  · rw [h'.lastProbe, h.lastProbe, h.router, Deed.ofEffects_append, Deed.others_append,
      RouterSettings.known_append]
  · rcases List.mem_append.1 hmem with hmem | hmem
    · exact h.unrendered he e hmem
    · obtain ⟨e', he'⟩ := he
      refine h'.unrendered ⟨e', ?_⟩ e hmem
      rw [h.router]
      exact (command_eq_error_iff _ _ _ _).1 he'

theorem select_advances (vendor exit : String) (path : List String) :
    Advances alone [] t (t.select vendor exit path) :=
  advances_of_quiet rfl rfl (List.forall_mem_nil _)

theorem probed_no_check {c : Connectivity} (h : Probed t es c)
    (he : ∃ e, t.command t.router.check.command = .error e) : es = [] := by
  cases h with
  | unrendered => rfl
  | ran reply hc =>
    obtain ⟨e, he⟩ := he
    rw [he] at hc
    cases hc

theorem probed_advances {c : Connectivity} (h : Probed t es c) : Advances true es t t := by
  refine ⟨rfl, ?_, fun he => ?_⟩
  · rw [Deed.others_ofEffects_true]
    rfl
  · rw [probed_no_check h he]
    exact List.forall_mem_nil _

theorem statusRead_advances {x : Except TransportError String} (h : StatusRead t es x) :
    Advances alone es t t := by
  refine advances_of_quiet rfl rfl ?_
  cases h with
  | unrendered => exact List.forall_mem_nil _
  | ran => simp [Effect.probing]

theorem pushed_advances {vendor exit : String} {l : List (Exchange Router)}
    {x : Except TransportError Unit} (h : Pushed t vendor exit l x) :
    Advances alone (Router.effects l) t t := by
  refine advances_of_quiet rfl rfl ?_
  cases h <;> simp [Effect.probing]

/-- Polls remember every health check, if none is remembered that cannot be rendered. -/
theorem polled_known {n : Nat} {x : Transport × Except RestartError Unit} (h : Polled n t es x)
    (ht : (∃ e, t.command t.router.check.command = .error e) → t.lastProbe = .unknown) :
    x.1.lastProbe = t.router.known t.lastProbe es := by
  induction h with
  | timeout t => rfl
  | @again n t es es' c x hp _ _ ih =>
    rw [RouterSettings.known_append]
    cases hp with
    | unrendered he =>
      rw [ht ⟨_, he⟩]
      exact ih fun _ => rfl
    | ran reply hc =>
      refine ih fun ⟨e, he⟩ => ?_
      rw [command_eq_error_iff _ t] at he
      exact nomatch hc.symm.trans he
  | @up n t es hp =>
    obtain ⟨e, rfl, he⟩ := probed_up hp
    obtain ⟨command, output, rfl, -, hm⟩ := he
    have hup : (t.router.verdict (.ok output)).isUp = true :=
      RouterSettings.verdict_up_iff.2 ⟨output, rfl, hm⟩
    rw [RouterSettings.known_of_probing rfl]
    cases hv : t.router.verdict (.ok output) <;> simp_all [Connectivity.isUp, Effect.outcome]

theorem restarted_advances {x : Except RestartError Unit} (h : Restarted t es (t', x)) :
    Advances false es t t' := by
  have hr : t'.router = t.router := restarted_router h
  suffices hknown : t'.lastProbe = t.router.known t.lastProbe es ∧
      ((∃ e, t.command t.router.check.command = .error e) → ∀ e ∈ es, e.isCheck = false) by
    refine ⟨hr, ?_, hknown.2⟩
    rw [Deed.others_ofEffects_false]
    exact hknown.1
  cases h with
  | stopUnrendered => exact ⟨rfl, fun _ => List.forall_mem_nil _⟩
  | startUnrendered => exact ⟨rfl, fun _ => List.forall_mem_nil _⟩
  | stopFailed => exact ⟨rfl, fun _ => by simp [Effect.isCheck]⟩
  | startFailed => exact ⟨rfl, fun _ => by simp [Effect.isCheck]⟩
  | @polled stop start o o' es _ _ _ hp =>
    -- stopping the tunnel makes what was known before of no account
    have hstopped : t.router.known t.lastProbe
        ([.run .stop stop (.ok o), .run .start start (.ok o')] ++ es) =
          t.router.known .unknown es := RouterSettings.known_append
    refine ⟨(polled_known hp fun _ => rfl).trans hstopped.symm, ?_⟩
    rintro ⟨e, he⟩
    obtain ⟨rfl, -⟩ := polled_unrendered hp ⟨e, (command_eq_error_iff _ _ _ _).1 he⟩
    simp [Effect.isCheck]

/-- Every operation advances the transport; a health check is made alone. -/
theorem operation_advances {o : Operation} {l : List (Exchange Router)}
    (h : (o.procedure t).Ends l t') : Advances (o = .probe) (Router.effects l) t t' := by
  cases o with
  | probe =>
    obtain ⟨l₁, c, l₂, rfl, h₁, h₂⟩ := Procedure.ends_bind.1 h
    obtain ⟨rfl, rfl⟩ := Procedure.ends_done.1 h₂
    simpa using probed_advances (probe_ends h₁)
  | restart =>
    obtain ⟨l₁, x, l₂, rfl, h₁, h₂⟩ := Procedure.ends_bind.1 h
    obtain ⟨rfl, rfl⟩ := Procedure.ends_done.1 h₂
    simpa using restarted_advances (restart_ends h₁)
  | select vendor exit path =>
    obtain ⟨rfl, rfl⟩ := Procedure.ends_done.1 h
    exact select_advances vendor exit path
  | status =>
    obtain ⟨l₁, x, l₂, rfl, h₁, h₂⟩ := Procedure.ends_bind.1 h
    obtain ⟨rfl, rfl⟩ := Procedure.ends_done.1 h₂
    simpa using statusRead_advances (status_ends h₁)
  | push vendor exit =>
    obtain ⟨l₁, x, l₂, rfl, h₁, h₂⟩ := Procedure.ends_bind.1 h
    obtain ⟨rfl, rfl⟩ := Procedure.ends_done.1 h₂
    rw [List.append_nil]
    exact pushed_advances (push_ends h₁)

end

/-! ## All steps -/

/-- What every step keeps. -/
structure Recalls (r : RouterSettings) (ds : List Deed) (t : Transport) : Prop where
  router : t.router = r
  lastProbe : t.lastProbe = r.known .unknown (Deed.others ds)
  unrendered : (∃ e, t.command r.check.command = .error e) → ∀ e ∈ Deed.all ds, e.isCheck = false

section
variable {r : RouterSettings} {ds : List Deed} {t t' : Transport}

theorem Recalls.advance {alone : Bool} {es : List Effect} (h : t.Recalls r ds)
    (ha : Advances alone es t t') : t'.Recalls r (ds ++ Deed.ofEffects alone es) := by
  obtain ⟨rfl, hlast, hnone⟩ := h
  refine ⟨ha.router, ?_, fun ⟨e, he⟩ => ?_⟩
  · rw [ha.lastProbe, hlast, Deed.others_append, RouterSettings.known_append]
  · have he' : ∃ e, t.command t.router.check.command = .error e :=
      ⟨e, (command_eq_error_iff _ _ _ _).1 he⟩
    rw [Deed.all_append, Deed.all_ofEffects]
    intro e hmem
    rcases List.mem_append.1 hmem with hmem | hmem
    · exact hnone he' e hmem
    · exact ha.unrendered he' e hmem

theorem Recalls.remembers (h : t.Recalls r ds) : t.Remembers r ds := by
  refine ⟨h.lastProbe, CommandVariable.templateVariables_name t .connected, ?_, fun he => ?_⟩
  · rw [h.lastProbe]
    exact ne_comm.trans Deed.known_all_ne_iff
  · refine ⟨h.lastProbe.trans (RouterSettings.known_of_unchecked fun e he' => ?_), h.unrendered he⟩
    exact h.unrendered he e (Deed.mem_all_of_mem_others he')

theorem operates_recalls {t₀ : Transport} (h₀ : t₀.Recalls r []) (h : t₀.Operates ds t) :
    t.Recalls r ds := by
  induction h with
  | start => exact h₀
  | operate o _ he ih => exact ih.advance (operation_advances he)

end

end Transport

/-! ## Calls on a session -/

/-- What a call did to the router; a call of `check` makes a health check alone. -/
def Performed.deeds (p : Performed) : List Deed :=
  Deed.ofEffects (p.call = .check) p.effects

namespace Session

open SessionAccess Transport

section
variable {t t' : Transport} {v v' : Channel TunnelState} {l : List (Exchange SessionAccess)}

theorem broughtUp_advances {s : Selection} {x : Except SelectError TunnelState}
    (h : BroughtUp s t v l t' v' x) : Advances false (effects l) t t' := by
  cases h with
  | restartFailed n hr =>
    have hnote : effects [lift ⟨.note n, ()⟩] = [] := rfl
    simpa [hnote] using restarted_advances hr
  | statusFailed hr hs => simpa using (restarted_advances hr).trans (statusRead_advances hs)
  | up hr hs => simpa using (restarted_advances hr).trans (statusRead_advances hs)

theorem did_advances {c : Call} {x : c.Result} (h : c.Did t v l t' v' x) :
    Advances (c = .check) (effects l) t t' := by
  cases c with
  | select vendor exit =>
    cases h with
    | unknownVendor => exact advances_of_quiet rfl rfl (by simp)
    | exitNotFound => exact advances_of_quiet rfl rfl (by simp)
    | pushFailed hp =>
      obtain ⟨e, hp, he⟩ := effects_pointed hp
      have hpush : Advances false (Router.effects e) t t := pushed_advances hp
      simpa [he] using hpush
    | @pushed path _ _ _ _ _ hp hb =>
      obtain ⟨e, hp, he⟩ := effects_pointed hp
      have hpush : Advances false (Router.effects e) t t := pushed_advances hp
      simpa [he] using
        (hpush.trans (select_advances vendor exit path)).trans (broughtUp_advances hb)
  | check =>
    obtain ⟨rfl, ⟨hp⟩⟩ := h
    simpa using probed_advances hp
  | refreshStatus =>
    obtain ⟨rfl, h⟩ := h
    cases h with
    | @failed e _ hs =>
      have hread : Advances false (Router.effects e) t' t' := statusRead_advances hs
      simpa using hread
    | @published e _ hs =>
      have hread : Advances false (Router.effects e) t' t' := statusRead_advances hs
      simpa using hread

end

section
variable {registry : Registry} {r : RouterSettings} {templates : List (String × String)}
  {h : List Performed} {s : Session}

theorem serves_recalls (hs : (fresh registry r templates).Serves h s) :
    s.transport.Recalls r (h.flatMap Performed.deeds) := by
  induction hs with
  | start => exact ⟨rfl, rfl, fun _ => List.forall_mem_nil _⟩
  | call c _ hm ih =>
    rw [List.flatMap_append, List.flatMap_singleton]
    exact ih.advance (did_advances hm.did)

end

/-- After any operations on a new transport, and after any calls on a new session, the transport
remembers the last health check that a restart made since it stopped the tunnel, and commands are
told of that one. It differs from the last health check of all just if that one was made alone,
later than all of the restarts, and came out differently. -/
theorem restarts_remembered (r : RouterSettings) (templates : List (String × String)) :
    (∀ (ds : List Deed) (t : Transport),
      ({ router := r, templates } : Transport).Operates ds t → t.Remembers r ds) ∧
    ∀ (registry : Registry) (h : List Performed) (s : Session),
      (fresh registry r templates).Serves h s →
        s.transport.Remembers r (h.flatMap Performed.deeds) :=
  ⟨fun _ _ h => (operates_recalls ⟨rfl, rfl, fun _ => List.forall_mem_nil _⟩ h).remembers,
    fun _ _ _ hs => (serves_recalls hs).remembers⟩

/-- A health check on a new transport, which matches. -/
theorem Sample.operates_probe :
    Sample.session.transport.Operates
      [⟨true, .run .check "check" (.ok "check")⟩] Sample.session.transport := by
  have hcommand : Sample.session.transport.command "check" = .ok "check" := by decide +kernel
  have hprobe : Sample.session.transport.probe.Ends [⟨.run .check "check", .ok "check"⟩] .up := by
    unfold probe
    rw [show Sample.session.transport.router.check.command = "check" from rfl, hcommand]
    exact Procedure.ends_perform_bind.2 ⟨.ok "check", [], rfl, Procedure.ends_done.2 ⟨rfl, rfl⟩⟩
  have hends : (Operation.probe.procedure Sample.session.transport).Ends
      ([⟨.run .check "check", .ok "check"⟩] ++ []) Sample.session.transport :=
    Procedure.ends_bind.2 ⟨_, .up, [], rfl, hprobe, .done _⟩
  exact .operate .probe .start hends

/-- A selection that worked, and a health check that failed after it. -/
theorem restarts_remembered_sample :
    (∃ ds t, Sample.session.transport.Operates ds t ∧ t.lastProbe = .unknown) ∧
    ∃ h s, Sample.session.Serves h s ∧
      Sample.settings.known .unknown (Deed.all (h.flatMap Performed.deeds)) = .down ∧
      s.transport.lastProbe = .up := by
  obtain ⟨hoperates, hserves⟩ := restarts_remembered Sample.settings [("acme", "acme.conf")]
  refine ⟨⟨_, _, Sample.operates_probe, (hoperates _ _ Sample.operates_probe).lastProbe⟩, ?_⟩
  have hs := Sample.serves_after (Sample.serves_after .start rfl [] (.select "acme" "a"))
    (Sample.registry_after [] (.select "acme" "a") Sample.session) ["check"] .check
  refine ⟨_, _, hs, by decide +kernel, ?_⟩
  rw [(hserves _ _ _ hs).lastProbe]
  decide +kernel

/-- A health check matched, yet the next command is told that nothing is known. -/
theorem probe_alone_forgotten :
    ∃ ds t, Sample.session.transport.Operates ds t ∧
      Sample.settings.known .unknown (Deed.all ds) = .up ∧ t.lastProbe = .unknown ∧
      t.commandState.templateVariables "Connected" = some "Unknown" :=
  ⟨_, _, Sample.operates_probe, by decide +kernel, rfl, rfl⟩

end Session

end Egress
