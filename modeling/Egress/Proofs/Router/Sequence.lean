import Egress.Proofs.Router.Outcome

/-!
# The sequence of a selection

What a selection may do to the router is one sequence: install the configuration, stop, start, check
the health some times, read the status. `sequence` computes it from the replies of the router
(`Replies`), with every command as it is rendered at its place; a selection carries it out up to the
first effect that fails (`upToFailure`), where health checks never count as failing. Restarts and
the reading of the status follow it (`restarted_error_sequence`, `restarted_ok_sequence`).
-/

set_option autoImplicit false

namespace Egress

/-- Whether an effect fails in a way that ends a selection. -/
def Effect.fails : Effect → Bool
  | .run .check _ _ => false
  | .run _ _ result => !result.isOk
  | .install _ _ _ result => !result.isOk

theorem Effect.fails_of_isCheck {e : Effect} (h : e.isCheck = true) : e.fails = false := by
  unfold isCheck at h
  split at h
  · rfl
  · cases h

/-- Effects up to the first that fails, with it. -/
def upToFailure : List Effect → List Effect
  | [] => []
  | e :: es => if e.fails then [e] else e :: upToFailure es

theorem upToFailure_cons_of_fails {e : Effect} (h : e.fails = true) (es : List Effect) :
    upToFailure (e :: es) = [e] := if_pos h

theorem upToFailure_cons {e : Effect} (h : e.fails = false) (es : List Effect) :
    upToFailure (e :: es) = e :: upToFailure es := if_neg (by simp [h])

theorem upToFailure_append {es : List Effect} (h : ∀ e ∈ es, e.fails = false) (es' : List Effect) :
    upToFailure (es ++ es') = es ++ upToFailure es' := by
  induction es with
  | nil => rfl
  | cons e es ih =>
    rw [List.cons_append, upToFailure_cons (h e List.mem_cons_self),
      ih fun e he => h e (List.mem_cons_of_mem _ he), List.cons_append]

/-- The last health check matched. -/
def lastCheckMatched (r : RouterSettings) (es : List Effect) : Bool :=
  (latest Effect.isCheck es).any (Effect.matched r)

/-- How a router replies to the effects of one selection. -/
structure Replies where
  install : Except TransportError Unit
  stop : Except TransportError String
  start : Except TransportError String
  /-- To the health checks, in order. -/
  checks : List (Except TransportError String)
  status : Except TransportError String

/-- A command for a selection, when the last health check ended in a given way. -/
def Selection.render (s : Selection) (c : Connectivity) (template : String) :
    Except RenderError String :=
  Template.render (Transport.selectionVariables s c) template

namespace RouterSettings

section
variable (r : RouterSettings) (s : Selection)

/-- The health checks that get these replies; each is told how the one before it ended. -/
def checkEffects : Connectivity → List (Except TransportError String) → List Effect
  | _, [] => []
  | c, reply :: replies =>
    match s.render c r.check.command with
    | .error _ => []
    | .ok command => .run .check command reply :: checkEffects (r.verdict reply) replies

/-- The last of these replies to health checks matched. -/
def endsUp (checks : List (Except TransportError String)) : Bool :=
  checks.getLast?.any fun reply => (r.verdict reply).isUp

/-- The status command, if the last health check matched. -/
def statusEffects (a : Replies) : List Effect :=
  if r.endsUp a.checks then
    match s.render .up r.statusCommand with
    | .error _ => []
    | .ok command => [.run .status command a.status]
  else []

/-- The commands of a selection, if those that stop and start can both be rendered; `c` is how the
last health check before the selection ended. -/
def commandEffects (c : Connectivity) (a : Replies) : List Effect :=
  match s.render c r.stopCommand, s.render c r.startCommand with
  | .ok stop, .ok start =>
    .run .stop stop a.stop :: .run .start start a.start ::
      (r.checkEffects s .unknown a.checks ++ r.statusEffects s a)
  | _, _ => []

/-- The sequence of a selection (module doc). -/
def sequence (c : Connectivity) (content : String) (a : Replies) : List Effect :=
  .install content r.configFile r.configMode a.install :: r.commandEffects s c a

/-- There is at most one health check for each second to wait, and only the last may match. If they
can be rendered they go on until one matches or the time is over; else there are none. -/
structure Polling (checks : List (Except TransportError String)) : Prop where
  bounded : checks.length ≤ r.waitSeconds
  before : ∀ reply ∈ checks.dropLast, (r.verdict reply).isUp = false
  patient : ∀ command, s.render .unknown r.check.command = .ok command →
    r.endsUp checks = false → checks.length = r.waitSeconds
  none : ∀ e, s.render .unknown r.check.command = .error e → checks = []

/-- Nothing fails: all commands that are run can be rendered, a health check matches, and all other
replies are good. -/
structure Succeeds (c : Connectivity) (a : Replies) : Prop where
  install : a.install = .ok ()
  stop : (∃ command, s.render c r.stopCommand = .ok command) ∧ ∃ output, a.stop = .ok output
  start : (∃ command, s.render c r.startCommand = .ok command) ∧ ∃ output, a.start = .ok output
  checks : r.endsUp a.checks = true
  status : (∃ command, s.render .up r.statusCommand = .ok command) ∧
    ∃ output, a.status = .ok output

end

section
variable {r : RouterSettings} {s : Selection} {c : Connectivity} {a : Replies}

theorem commandEffects_rendered {stop start : String}
    (hstop : s.render c r.stopCommand = .ok stop) (hstart : s.render c r.startCommand = .ok start) :
    r.commandEffects s c a = .run .stop stop a.stop :: .run .start start a.start ::
      (r.checkEffects s .unknown a.checks ++ r.statusEffects s a) := by
  simp only [commandEffects, hstop, hstart]

theorem commandEffects_unrendered
    (h : (∃ e, s.render c r.stopCommand = .error e) ∨ ∃ e, s.render c r.startCommand = .error e) :
    r.commandEffects s c a = [] := by
  unfold commandEffects
  split
  · rename_i hstop hstart
    rw [hstop, hstart] at h
    rcases h with ⟨_, h⟩ | ⟨_, h⟩ <;> cases h
  · rfl

/-! ## Health checks -/

theorem checkEffects_isCheck (checks : List (Except TransportError String)) :
    ∀ e ∈ r.checkEffects s c checks, e.isCheck = true := by
  induction checks generalizing c with
  | nil => exact List.forall_mem_nil _
  | cons reply replies ih =>
    unfold checkEffects
    split
    · exact List.forall_mem_nil _
    · intro e he
      rcases List.mem_cons.1 he with rfl | he
      · rfl
      · exact ih e he

theorem checkEffects_fails (checks : List (Except TransportError String)) :
    ∀ e ∈ r.checkEffects s c checks, e.fails = false :=
  fun e he => Effect.fails_of_isCheck (checkEffects_isCheck checks e he)

theorem exists_polling (r : RouterSettings) (s : Selection) : ∃ checks, r.Polling s checks := by
  cases hr : s.render .unknown r.check.command with
  | error e =>
    refine ⟨[], Nat.zero_le _, List.forall_mem_nil _, fun command h => ?_, fun _ _ => rfl⟩
    rw [hr] at h
    cases h
  | ok command =>
    refine ⟨List.replicate r.waitSeconds (.error .emptyCommand), ?_, ?_, ?_, ?_⟩
    · exact Nat.le_of_eq List.length_replicate
    · intro reply hm
      obtain rfl := List.eq_of_mem_replicate (List.dropLast_subset _ hm)
      rfl
    · exact fun _ _ _ => List.length_replicate
    · intro e h
      rw [hr] at h
      cases h

/-- A health check that did not match decides nothing if others come after it. -/
theorem endsUp_cons {reply : Except TransportError String} (h : (r.verdict reply).isUp = false)
    (checks : List (Except TransportError String)) :
    r.endsUp (reply :: checks) = r.endsUp checks := by
  cases checks with
  | nil => simpa [endsUp] using h
  | cons reply' checks => rfl

theorem before_cons {reply : Except TransportError String}
    {checks : List (Except TransportError String)}
    (h : (r.verdict reply).isUp = false)
    (hchecks : ∀ x ∈ checks.dropLast, (r.verdict x).isUp = false) :
    ∀ x ∈ (reply :: checks).dropLast, (r.verdict x).isUp = false := by
  cases checks with
  | nil => exact List.forall_mem_nil _
  | cons reply' checks =>
    intro x hx
    rcases List.mem_cons.1 hx with rfl | hx
    · exact h
    · exact hchecks x hx

/-- Whether a command can be rendered does not depend on how the last health check ended. -/
theorem render_ok_iff (s : Selection) (c c' : Connectivity) (template : String) :
    (∃ command, s.render c template = .ok command) ↔
      ∃ command, s.render c' template = .ok command := by
  have hn : (Transport.selectionVariables s c).SameNames (Transport.selectionVariables s c') :=
    Template.Variables.sameNames_ofList rfl
  exact ok_iff_of_error_iff (Template.render_eq_error_iff hn template)

theorem checkEffects_cons {command : String} (h : s.render c r.check.command = .ok command)
    (reply : Except TransportError String) (replies : List (Except TransportError String)) :
    r.checkEffects s c (reply :: replies)
      = .run .check command reply :: r.checkEffects s (r.verdict reply) replies := by
  rw [checkEffects, h]

theorem checkEffects_matched {checks : List (Except TransportError String)}
    (h : ∃ command, s.render c r.check.command = .ok command) :
    (r.checkEffects s c checks).getLast?.any (Effect.matched r) = r.endsUp checks := by
  induction checks generalizing c with
  | nil => rfl
  | cons reply replies ih =>
    obtain ⟨command, hc⟩ := h
    have hnext := (render_ok_iff s c (r.verdict reply) _).1 ⟨command, hc⟩
    rw [checkEffects_cons hc]
    cases replies with
    | nil => rfl
    | cons reply' replies =>
      obtain ⟨command', hc'⟩ := hnext
      have ih := ih ⟨command', hc'⟩
      rw [checkEffects_cons hc'] at ih ⊢
      rw [List.getLast?_cons_cons]
      exact ih

theorem Polling.lastCheckMatched {checks : List (Except TransportError String)}
    (h : r.Polling s checks) :
    lastCheckMatched r (r.checkEffects s .unknown checks) = r.endsUp checks := by
  have hall := checkEffects_isCheck (r := r) (s := s) (c := .unknown) checks
  rw [Egress.lastCheckMatched, latest, List.filter_eq_self.2 hall]
  cases hr : s.render .unknown r.check.command with
  | error e =>
    obtain rfl := h.none e hr
    rfl
  | ok command => exact checkEffects_matched ⟨command, hr⟩

/-! ## The status command -/

theorem upToFailure_statusEffects : upToFailure (r.statusEffects s a) = r.statusEffects s a := by
  unfold statusEffects
  split
  · split
    · rfl
    · exact ite_self _
  · rfl

theorem statusEffects_isStatus : ∀ e ∈ r.statusEffects s a, e.isStatus = true := by
  unfold statusEffects
  split
  · split
    · exact List.forall_mem_nil _
    · intro e he
      obtain rfl := List.mem_singleton.1 he
      rfl
  · exact List.forall_mem_nil _

theorem statusEffects_ne_nil :
    r.statusEffects s a ≠ [] ↔
      r.endsUp a.checks = true ∧ ∃ command, s.render .up r.statusCommand = .ok command := by
  unfold statusEffects
  split
  · rename_i hup
    split
    · rename_i he
      simp [he]
    · rename_i command hc
      simp [hup, hc]
  · rename_i hup
    simp [hup]

/-- A sequence up to a failure either ends before the health checks or is all there is to do. -/
theorem upToFailure_sequence (r : RouterSettings) (s : Selection) (c : Connectivity)
    (content : String) (a : Replies) :
    ∃ es, (∀ e ∈ es, e.isCheck = false ∧ e.isStatus = false) ∧
      (upToFailure (r.sequence s c content a) = es ∨
        upToFailure (r.sequence s c content a)
          = es ++ (r.checkEffects s .unknown a.checks ++ r.statusEffects s a)) := by
  have hend : upToFailure (r.checkEffects s .unknown a.checks ++ r.statusEffects s a)
      = r.checkEffects s .unknown a.checks ++ r.statusEffects s a := by
    rw [upToFailure_append (checkEffects_fails a.checks), upToFailure_statusEffects]
  unfold sequence
  rcases hi : a.install with e | u
  · exact ⟨_, by simp [Effect.isCheck, Effect.isStatus], .inl (upToFailure_cons_of_fails rfl _)⟩
  rw [upToFailure_cons rfl]
  unfold commandEffects
  split
  · rename_i stop start _ _
    rcases hstop : a.stop with e | o
    · rw [upToFailure_cons_of_fails rfl]
      exact ⟨_, by simp [Effect.isCheck, Effect.isStatus], .inl rfl⟩
    rw [upToFailure_cons rfl]
    rcases hstart : a.start with e | o'
    · rw [upToFailure_cons_of_fails rfl]
      exact ⟨_, by simp [Effect.isCheck, Effect.isStatus], .inl rfl⟩
    rw [upToFailure_cons rfl, hend]
    refine ⟨[.install content r.configFile r.configMode (.ok u), .run .stop stop (.ok o),
      .run .start start (.ok o')], by simp [Effect.isCheck, Effect.isStatus], .inr rfl⟩
  · exact ⟨[.install content r.configFile r.configMode (.ok u)],
      by simp [Effect.isCheck, Effect.isStatus], .inl rfl⟩

/-- The status command is run if and only if the last health check matched and the command can be
rendered. -/
theorem status_mem_sequence {content : String} (h : r.Polling s a.checks) :
    (∃ e ∈ upToFailure (r.sequence s c content a), e.isStatus = true) ↔
      lastCheckMatched r (upToFailure (r.sequence s c content a)) = true ∧
        ∃ command, s.render .up r.statusCommand = .ok command := by
  have hstatus : ∀ e ∈ r.statusEffects s a, e.isStatus = true := statusEffects_isStatus
  have hchecks := checkEffects_isCheck (r := r) (s := s) (c := .unknown) a.checks
  obtain ⟨es, hes, he | he⟩ := upToFailure_sequence r s c content a
  · have hl : latest Effect.isCheck es = none := latest_eq_none_iff.2 fun e hm => (hes e hm).1
    rw [he, Egress.lastCheckMatched, hl]
    constructor
    · rintro ⟨e, hm, hs⟩
      rw [(hes e hm).2] at hs
      cases hs
    · rintro ⟨hup, -⟩
      cases hup
  · have hl : latest Effect.isCheck es = none := latest_eq_none_iff.2 fun e hm => (hes e hm).1
    have hl' : lastCheckMatched r (es ++ (r.checkEffects s .unknown a.checks ++
        r.statusEffects s a)) = r.endsUp a.checks := by
      rw [← h.lastCheckMatched, Egress.lastCheckMatched, Egress.lastCheckMatched, latest_append,
        latest_append_of_neg fun e hm => Effect.isCheck_of_isStatus (hstatus e hm), hl,
        Option.or_none]
    rw [he, hl', ← statusEffects_ne_nil]
    constructor
    · rintro ⟨e, hm, hs⟩ hnil
      rw [hnil, List.append_nil] at hm
      rcases List.mem_append.1 hm with hm | hm
      · rw [(hes e hm).2] at hs
        cases hs
      · rw [Effect.isStatus_of_isCheck (hchecks e hm)] at hs
        cases hs
    · intro hne
      obtain ⟨e, hm⟩ := List.exists_mem_of_ne_nil _ hne
      exact ⟨e, List.mem_append_right _ (List.mem_append_right _ hm), hstatus e hm⟩

end

end RouterSettings

namespace Transport

section
variable {t t' : Transport} {s : Selection}

theorem command_ok_iff (h : t.selection = some s) {template command : String} :
    t.command template = .ok command ↔ s.render t.lastProbe template = .ok command := by
  rw [command_of_selection h]
  unfold Selection.render
  cases Template.render (selectionVariables s t.lastProbe) template with
  | error e => exact ⟨nofun, nofun⟩
  | ok c => exact ⟨fun h => congrArg _ (Except.ok.inj h), fun h => congrArg _ (Except.ok.inj h)⟩

theorem command_error_iff (h : t.selection = some s) {template : String} :
    (∃ e, t.command template = .error e) ↔ ∃ e, s.render t.lastProbe template = .error e := by
  rw [command_of_selection h]
  unfold Selection.render
  cases Template.render (selectionVariables s t.lastProbe) template with
  | error e => exact ⟨fun _ => ⟨e, rfl⟩, fun _ => ⟨.render e, rfl⟩⟩
  | ok c => exact ⟨nofun, nofun⟩

/-! ## Polls -/

theorem polled_unrendered {n : Nat} {es : List Effect}
    {x : Transport × Except RestartError Unit} (h : Polled n t es x)
    (he : ∃ e, t.command t.router.check.command = .error e) : es = [] ∧ x.2.isOk = false := by
  induction h with
  | timeout t => exact ⟨rfl, rfl⟩
  | @again n t es es' c x hp hc hn ih =>
    obtain ⟨e, he⟩ := he
    obtain ⟨rfl, hx⟩ := ih ⟨e, (command_eq_error_iff t _ _ _).1 he⟩
    cases hp with
    | unrendered => exact ⟨rfl, hx⟩
    | ran reply hcommand =>
      rw [he] at hcommand
      cases hcommand
  | up hp =>
    obtain ⟨e, he⟩ := he
    generalize hc : Connectivity.up = c at hp
    cases hp with
    | unrendered => cases hc
    | ran reply hcommand =>
      rw [he] at hcommand
      cases hcommand

/-- Polls whose command can be rendered are health checks, one each. -/
theorem polled_rendered {n : Nat} {es : List Effect}
    {x : Transport × Except RestartError Unit} (h : Polled n t es x) (hs : t.selection = some s)
    (hc : ∃ command, t.command t.router.check.command = .ok command) :
    ∃ checks, es = t.router.checkEffects s t.lastProbe checks ∧ checks.length ≤ n ∧
      (∀ reply ∈ checks.dropLast, (t.router.verdict reply).isUp = false) ∧
      t.router.endsUp checks = x.2.isOk ∧ (x.2.isOk = false → checks.length = n) := by
  induction h with
  | timeout t => exact ⟨[], rfl, Nat.le_refl 0, List.forall_mem_nil _, rfl, fun _ => rfl⟩
  | @again n t es es' c x hp hdown hn ih =>
    -- the next poll tells its command another connectivity, and can render it all the same
    have hc' : ∃ command, ({ t with lastProbe := c } : Transport).command t.router.check.command
        = .ok command := (renders_iff t _ _).1 hc
    obtain ⟨checks, rfl, hlen, hbefore, hends, hall⟩ := ih hs hc'
    cases hp with
    | unrendered he =>
      obtain ⟨command, hc⟩ := hc
      rw [he] at hc
      cases hc
    | @ran command reply hcommand =>
      have hr := (command_ok_iff hs).1 hcommand
      refine ⟨reply :: checks, ?_, Nat.succ_le_succ hlen, RouterSettings.before_cons hdown hbefore,
        (RouterSettings.endsUp_cons hdown checks).trans hends,
        fun hx => congrArg Nat.succ (hall hx)⟩
      rw [RouterSettings.checkEffects_cons hr]
      rfl
  | @up n t es hp =>
    generalize hup : Connectivity.up = c at hp
    cases hp with
    | unrendered he => cases hup
    | @ran command reply hcommand =>
      have hr := (command_ok_iff hs).1 hcommand
      refine ⟨[reply], ?_, Nat.succ_le_succ (Nat.zero_le n), List.forall_mem_nil _, ?_, nofun⟩
      · rw [RouterSettings.checkEffects_cons hr, RouterSettings.checkEffects]
      · simp only [RouterSettings.endsUp, List.getLast?_singleton, Option.any_some, ← hup]
        rfl

/-- The health checks of a restart follow the sequence, and their last reply decides. -/
theorem polled_checks {es : List Effect} {x : Transport × Except RestartError Unit}
    (h : Polled t.router.waitSeconds t.forget es x) (hs : t.selection = some s) :
    ∃ checks, t.router.Polling s checks ∧ es = t.router.checkEffects s .unknown checks ∧
      t.router.endsUp checks = x.2.isOk := by
  have hs' : t.forget.selection = some s := hs
  cases hr : t.forget.command t.router.check.command with
  | error e =>
    obtain ⟨rfl, hx⟩ := polled_unrendered h ⟨e, hr⟩
    obtain ⟨e', he'⟩ := (command_error_iff hs').1 ⟨e, hr⟩
    refine ⟨[], ⟨Nat.zero_le _, List.forall_mem_nil _, fun command hc => ?_, fun _ _ => rfl⟩, rfl,
      hx.symm⟩
    rw [show s.render .unknown t.router.check.command = .error e' from he'] at hc
    cases hc
  | ok command =>
    have hc := (command_ok_iff hs').1 hr
    obtain ⟨checks, rfl, hlen, hbefore, hends, hall⟩ := polled_rendered h hs' ⟨command, hr⟩
    refine ⟨checks, ⟨hlen, hbefore, fun _ _ hdown => hall (hends ▸ hdown), fun e he => ?_⟩, rfl,
      hends⟩
    rw [show s.render .unknown t.router.check.command = .ok command from hc] at he
    cases he

/-! ## Restarts -/

/-- A restart that fails carries out the commands up to a failure, or to the end without a health
check that matched. -/
theorem restarted_error_sequence {es : List Effect} {e : RestartError}
    (h : Restarted t es (t', .error e)) (hs : t.selection = some s) :
    ∃ stop start checks, t.router.Polling s checks ∧ ∀ install status,
      es = upToFailure (t.router.commandEffects s t.lastProbe
        ⟨install, stop, start, checks, status⟩) ∧
      ¬ t.router.Succeeds s t.lastProbe ⟨install, stop, start, checks, status⟩ := by
  obtain ⟨checks, hchecks⟩ := RouterSettings.exists_polling t.router s
  cases h with
  | stopUnrendered he =>
    obtain ⟨e', he'⟩ := (command_error_iff hs).1 ⟨_, he⟩
    refine ⟨.ok "", .ok "", checks, hchecks, fun install status => ⟨?_, fun hok => ?_⟩⟩
    · rw [RouterSettings.commandEffects_unrendered (.inl ⟨e', he'⟩)]
      rfl
    · obtain ⟨⟨stop, hstop⟩, -⟩ := hok.stop
      rw [he'] at hstop
      cases hstop
  | startUnrendered he =>
    obtain ⟨e', he'⟩ := (command_error_iff hs).1 ⟨_, he⟩
    refine ⟨.ok "", .ok "", checks, hchecks, fun install status => ⟨?_, fun hok => ?_⟩⟩
    · rw [RouterSettings.commandEffects_unrendered (.inr ⟨e', he'⟩)]
      rfl
    · obtain ⟨⟨start, hstart⟩, -⟩ := hok.start
      rw [he'] at hstart
      cases hstart
  | stopFailed e hstop hstart =>
    rw [command_ok_iff hs] at hstop hstart
    refine ⟨.error e, .ok "", checks, hchecks, fun install status => ⟨?_, fun hok => ?_⟩⟩
    · rw [RouterSettings.commandEffects_rendered hstop hstart, upToFailure_cons_of_fails rfl]
    · obtain ⟨-, output, houtput⟩ := hok.stop
      cases houtput
  | startFailed o e hstop hstart =>
    rw [command_ok_iff hs] at hstop hstart
    refine ⟨.ok o, .error e, checks, hchecks, fun install status => ⟨?_, fun hok => ?_⟩⟩
    · rw [RouterSettings.commandEffects_rendered hstop hstart, upToFailure_cons rfl,
        upToFailure_cons_of_fails rfl]
    · obtain ⟨-, output, houtput⟩ := hok.start
      cases houtput
  | polled o o' hstop hstart hp =>
    rw [command_ok_iff hs] at hstop hstart
    obtain ⟨checks, hchecks, rfl, hends⟩ := polled_checks hp hs
    refine ⟨.ok o, .ok o', checks, hchecks, fun install status => ⟨?_, fun hok => ?_⟩⟩
    · have hstatus : t.router.statusEffects s ⟨install, .ok o, .ok o', checks, status⟩ = [] :=
        if_neg (by simp [hends, Except.isOk, Except.toBool])
      rw [RouterSettings.commandEffects_rendered hstop hstart, upToFailure_cons rfl,
        upToFailure_cons rfl, upToFailure_append (RouterSettings.checkEffects_fails checks),
        hstatus, upToFailure, List.append_nil]
    · have := hends.symm.trans hok.checks
      cases this

/-- A restart that succeeds carries out all commands but the last, and leaves it to the status. -/
theorem restarted_ok_sequence {es : List Effect} (h : Restarted t es (t', .ok ()))
    (hs : t.selection = some s) :
    ∃ stop start checks, t.router.Polling s checks ∧ t.router.endsUp checks = true ∧
      ∀ install status,
        upToFailure (t.router.commandEffects s t.lastProbe ⟨install, stop, start, checks, status⟩)
          = es ++ t.router.statusEffects s ⟨install, stop, start, checks, status⟩ ∧
        (t.router.Succeeds s t.lastProbe ⟨install, stop, start, checks, status⟩ ↔
          install = .ok () ∧ (∃ command, s.render .up t.router.statusCommand = .ok command) ∧
          ∃ output, status = .ok output) := by
  cases h with
  | polled o o' hstop hstart hp =>
    rw [command_ok_iff hs] at hstop hstart
    obtain ⟨checks, hchecks, rfl, hends⟩ := polled_checks hp hs
    refine ⟨.ok o, .ok o', checks, hchecks, hends, fun install status => ⟨?_, ?_⟩⟩
    · rw [RouterSettings.commandEffects_rendered hstop hstart, upToFailure_cons rfl,
        upToFailure_cons rfl, upToFailure_append (RouterSettings.checkEffects_fails checks),
        RouterSettings.upToFailure_statusEffects]
      rfl
    · constructor
      · intro hok
        exact ⟨hok.install, hok.status⟩
      · rintro ⟨hinstall, hstatus⟩
        exact ⟨hinstall, ⟨⟨_, hstop⟩, o, rfl⟩, ⟨⟨_, hstart⟩, o', rfl⟩, hends, hstatus⟩

/-- Reading the status of a tunnel that came up is the end of the sequence. -/
theorem statusRead_sequence {es : List Effect} {x : Except TransportError String}
    (h : StatusRead t es x) (hs : t.selection = some s) (hup : t.lastProbe = .up) :
    ∃ status, (x.isOk = true ↔ (∃ command, s.render .up t.router.statusCommand = .ok command) ∧
        ∃ output, status = .ok output) ∧
      ∀ a : Replies, a.status = status → t.router.endsUp a.checks = true →
        es = t.router.statusEffects s a := by
  cases h with
  | unrendered he =>
    obtain ⟨e', he'⟩ := (command_error_iff hs).1 ⟨_, he⟩
    rw [hup] at he'
    refine ⟨.ok "", ⟨nofun, ?_⟩, fun a _ hends => ?_⟩
    · rintro ⟨⟨command, hc⟩, -⟩
      rw [he'] at hc
      cases hc
    · simp only [RouterSettings.statusEffects, hends, if_true, he']
  | @ran command x hc =>
    rw [command_ok_iff hs, hup] at hc
    refine ⟨x, ?_, fun a ha hends => ?_⟩
    · cases x with
      | error e => exact ⟨nofun, fun h => nomatch h.2.choose_spec⟩
      | ok output => exact ⟨fun _ => ⟨⟨command, hc⟩, output, rfl⟩, fun _ => rfl⟩
    · simp only [RouterSettings.statusEffects, hends, if_true, hc, ha]

end

end Transport

end Egress
