import Egress.Proofs.Except
import Egress.Proofs.Router.Outcome
import Mathlib.Logic.Function.Iterate

/-!
# How long a restart waits

`w.carry runner p` carries a procedure out with a runner, which answers commands from a state of its
own and may go by the time, and with a watch, which is set forward by pauses alone and keeps what
was run when. After its stop and start a restart polls: a second later it makes the health check,
and so on (`pollOnce`). It ends with the first poll that is `up`, and without one when all the
seconds to wait have passed (`restart_waits`).
-/

set_option autoImplicit false

namespace Egress

/-- What runs a router's commands: at a time, it replies to a command out of a state of its own. -/
abbrev Runner (ρ : Type) := Nat → String → ρ → Except TransportError String × ρ

/-- A command that was run. -/
structure Ran where
  second : Nat
  purpose : Router.Purpose
  command : String
  reply : Except TransportError String

/-- The state of a runner, the seconds that have passed, and what was run in them. -/
structure Watch (ρ : Type) where
  state : ρ
  seconds : Nat := 0
  ran : List Ran := []

namespace Watch

variable {ρ α β : Type}

/-- A second passes. -/
def tick (w : Watch ρ) : Watch ρ :=
  { w with seconds := w.seconds + 1 }

/-- Runs a command, which takes no time. -/
def run (runner : Runner ρ) (purpose : Router.Purpose) (command : String) (w : Watch ρ) :
    Except TransportError String × Watch ρ :=
  let (reply, state) := runner w.seconds command w.state
  (reply, ⟨state, w.seconds, w.ran ++ [⟨w.seconds, purpose, command, reply⟩]⟩)

/-- Answers requests with a runner. Nothing is said of files here, they all work. -/
def answer (runner : Runner ρ) : (q : Router.Request) → StateM (Watch ρ) (Router.Reply q)
  | .run purpose command => run runner purpose command
  | .template _ => pure (.ok "")
  | .stage destination _ => pure (.ok destination)
  | .install .. => pure (.ok ())
  | .discard _ => pure ()
  | .pause => modify tick
  | .note _ => pure ()

/-- Carries a procedure out with a runner (module doc). -/
def carry (runner : Runner ρ) (p : Procedure Router α) (w : Watch ρ) : α × Watch ρ :=
  (p.run (answer runner)).run w

section
variable {runner : Runner ρ} {w : Watch ρ}

theorem run_eq {purpose : Router.Purpose} {command : String} {reply : Except TransportError String}
    {s : ρ} (h : runner w.seconds command w.state = (reply, s)) :
    w.run runner purpose command
      = (reply, ⟨s, w.seconds, w.ran ++ [⟨w.seconds, purpose, command, reply⟩]⟩) := by
  simp only [run, h]

theorem carry_pure (a : α) : w.carry runner (pure a) = (a, w) := rfl

theorem carry_bind (p : Procedure Router α) (f : α → Procedure Router β) :
    w.carry runner (p >>= f) = (w.carry runner p).2.carry runner (f (w.carry runner p).1) := by
  rw [carry, Procedure.run_bind]
  rfl

theorem carry_run_bind (purpose : Router.Purpose) (command : String)
    (f : Except TransportError String → Procedure Router β) :
    w.carry runner (Router.run purpose command >>= f)
      = (w.run runner purpose command).2.carry runner (f (w.run runner purpose command).1) := rfl

theorem carry_pause_bind (f : Unit → Procedure Router β) :
    w.carry runner (Router.pause >>= f) = w.tick.carry runner (f ()) := rfl

theorem carry_note_bind (level : Level) (topic : Topic) (text : String)
    (f : Unit → Procedure Router β) :
    w.carry runner (Router.note level topic text >>= f) = w.carry runner (f ()) := rfl

end

end Watch

namespace Transport

variable {ρ : Type} {runner : Runner ρ} {t : Transport} {w : Watch ρ}

/-! ## One poll -/

/-- What a poll leads to: a second later the health check is made, if its command can be
rendered. -/
def pollOnce (runner : Runner ρ) : Transport × Watch ρ → Transport × Watch ρ
  | (t, w) => match t.command t.router.check.command with
    | .error _ => ({ t with lastProbe := .unknown }, w.tick)
    | .ok command =>
      let (reply, w) := w.tick.run runner .check command
      ({ t with lastProbe := t.router.verdict reply }, w)

theorem pollOnce_of_error {e : TransportError}
    (h : t.command t.router.check.command = .error e) :
    pollOnce runner (t, w) = ({ t with lastProbe := .unknown }, w.tick) := by
  simp only [pollOnce, h]

theorem pollOnce_of_ok {command : String} (h : t.command t.router.check.command = .ok command) :
    pollOnce runner (t, w)
      = ({ t with lastProbe := t.router.verdict (w.tick.run runner .check command).1 },
        (w.tick.run runner .check command).2) := by
  simp only [pollOnce, h]

/-- A poll changes nothing of a transport but what it knows of the last health check. -/
theorem pollOnce_fst (x : Transport × Watch ρ) :
    { x.1 with lastProbe := (pollOnce runner x).1.lastProbe } = (pollOnce runner x).1 := by
  obtain ⟨t, w⟩ := x
  cases h : t.command t.router.check.command with
  | error e => rw [pollOnce_of_error h]
  | ok command => rw [pollOnce_of_ok h]

theorem carry_probe : w.tick.carry runner t.probe
    = ((pollOnce runner (t, w)).1.lastProbe, (pollOnce runner (t, w)).2) := by
  cases h : t.command t.router.check.command with
  | error e =>
    rw [pollOnce_of_error h]
    simp only [probe, h]
    rfl
  | ok command =>
    rw [pollOnce_of_ok h]
    simp only [probe, h]
    rw [Watch.carry_run_bind]
    cases (w.tick.run runner .check command).1 with
    | error e => rfl
    | ok output =>
      simp only [RouterSettings.verdict]
      split <;> rfl

theorem carry_poll_succ (n : Nat) : w.carry runner (poll (n + 1) t) =
    if (pollOnce runner (t, w)).1.lastProbe.isUp then
      (((pollOnce runner (t, w)).1, .ok ()), (pollOnce runner (t, w)).2)
    else (pollOnce runner (t, w)).2.carry runner (poll n (pollOnce runner (t, w)).1) := by
  rw [poll, Watch.carry_pause_bind, Watch.carry_bind, carry_probe]
  simp only [pollOnce_fst (t, w)]
  split
  · rw [Watch.carry_note_bind, Watch.carry_pure]
  · rw [Watch.carry_note_bind]

/-- A poll that is `up` ends the loop. -/
theorem carry_poll_up (h : (pollOnce runner (t, w)).1.lastProbe = .up) (n : Nat) :
    w.carry runner (poll (n + 1) t)
      = (((pollOnce runner (t, w)).1, .ok ()), (pollOnce runner (t, w)).2) := by
  rw [carry_poll_succ, h]
  rfl

/-- After any other the loop goes on. -/
theorem carry_poll_again (h : (pollOnce runner (t, w)).1.lastProbe ≠ .up) (n : Nat) :
    w.carry runner (poll (n + 1) t)
      = (pollOnce runner (t, w)).2.carry runner (poll n (pollOnce runner (t, w)).1) := by
  rw [carry_poll_succ, Connectivity.ne_up_iff.1 h]
  rfl

/-! ## Polls in a row -/

/-- Transport and watch after some polls. -/
def afterPolls (runner : Runner ρ) (t : Transport) (w : Watch ρ) (i : Nat) : Transport × Watch ρ :=
  (pollOnce runner)^[i] (t, w)

theorem afterPolls_succ (i : Nat) :
    afterPolls runner t w (i + 1) = pollOnce runner (afterPolls runner t w i) :=
  Function.iterate_succ_apply' ..

theorem afterPolls_eq (runner : Runner ρ) (t : Transport) (w : Watch ρ) (i : Nat) : ∃ c state ran,
    afterPolls runner t w i = ({ t with lastProbe := c }, ⟨state, w.seconds + i, ran⟩) := by
  induction i with
  | zero => exact ⟨t.lastProbe, w.state, w.ran, rfl⟩
  | succ i ih =>
    obtain ⟨c, state, ran, hi⟩ := ih
    rw [afterPolls_succ, hi]
    cases h : { t with lastProbe := c }.command t.router.check.command with
    | error e => exact ⟨_, _, _, pollOnce_of_error h⟩
    | ok command => exact ⟨_, _, _, pollOnce_of_ok h⟩

/-- A loop of polls ends with the first that is `up`. -/
theorem carry_poll_of_up {k n : Nat} (hup : (afterPolls runner t w (k + 1)).1.lastProbe = .up)
    (hfirst : ∀ i, 1 ≤ i → i < k + 1 → (afterPolls runner t w i).1.lastProbe ≠ .up) (hn : k < n) :
    w.carry runner (poll n t)
      = (((afterPolls runner t w (k + 1)).1, .ok ()), (afterPolls runner t w (k + 1)).2) := by
  induction k generalizing t w n with
  | zero =>
    obtain ⟨n, rfl⟩ := Nat.exists_eq_add_one.2 hn
    exact carry_poll_up hup n
  | succ k ih =>
    obtain ⟨n, rfl⟩ := Nat.exists_eq_add_one.2 (Nat.zero_lt_of_lt hn)
    have hdown : (pollOnce runner (t, w)).1.lastProbe ≠ .up := hfirst 1 (by omega) (by omega)
    rw [carry_poll_again hdown]
    -- the later polls are the polls from where the first one led to
    exact ih hup (fun i _ hi => hfirst (i + 1) (by omega) (by omega)) (by omega)

/-- A loop of polls none of which is `up` makes them all. -/
theorem carry_poll_of_not_up {n : Nat}
    (hdown : ∀ i, 1 ≤ i → i ≤ n → (afterPolls runner t w i).1.lastProbe ≠ .up) :
    w.carry runner (poll n t)
      = (((afterPolls runner t w n).1, .error t.timeout), (afterPolls runner t w n).2) := by
  induction n generalizing t w with
  | zero => rfl
  | succ n ih =>
    have hfirst : (pollOnce runner (t, w)).1.lastProbe ≠ .up := hdown 1 (by omega) (by omega)
    have htimeout : (pollOnce runner (t, w)).1.timeout = t.timeout := by
      rw [← pollOnce_fst]
      rfl
    rw [carry_poll_again hfirst,
      ih (t := (pollOnce runner (t, w)).1) (w := (pollOnce runner (t, w)).2)
        fun i _ hi => hdown (i + 1) (by omega) (by omega), htimeout]
    rfl

/-- Transports and watches after no poll, one poll, two polls and so on. Each poll comes a second
after the one before. It makes the health check if its command can be rendered. -/
structure Polls (runner : Runner ρ) (t : Transport) (w : Watch ρ)
    (x : Nat → Transport × Watch ρ) : Prop where
  start : x 0 = (t, w)
  seconds (i : Nat) : (x i).2.seconds = w.seconds + i
  checks (i : Nat) {command : String} (h : (x i).1.command t.router.check.command = .ok command)
    {reply : Except TransportError String} {state : ρ}
    (hrun : runner (w.seconds + i + 1) command (x i).2.state = (reply, state)) :
    x (i + 1) = ({ t with lastProbe := t.router.verdict reply }, ⟨state, w.seconds + i + 1,
      (x i).2.ran ++ [⟨w.seconds + i + 1, .check, command, reply⟩]⟩)
  idles (i : Nat) {e : TransportError} (h : (x i).1.command t.router.check.command = .error e) :
    x (i + 1) = ({ t with lastProbe := .unknown },
      ⟨(x i).2.state, w.seconds + i + 1, (x i).2.ran⟩)

theorem polls_afterPolls : Polls runner t w (afterPolls runner t w) where
  start := rfl
  seconds i := by
    obtain ⟨c, state, ran, hi⟩ := afterPolls_eq runner t w i
    rw [hi]
  checks i command h reply state hrun := by
    obtain ⟨c, s, ran, hi⟩ := afterPolls_eq runner t w i
    rw [hi] at h hrun
    rw [afterPolls_succ, hi, pollOnce_of_ok h, Watch.run_eq hrun]
    rfl
  idles i e h := by
    obtain ⟨c, s, ran, hi⟩ := afterPolls_eq runner t w i
    rw [hi] at h
    rw [afterPolls_succ, hi, pollOnce_of_error h]
    rfl

/-! ## Restarts -/

section
variable {stop start : String} (hstop : t.command t.router.stopCommand = .ok stop)
  (hstart : t.command t.router.startCommand = .ok start)
include hstop hstart

theorem carry_restart_of_stop_error {e : TransportError} {w' : Watch ρ}
    (h : w.run runner .stop stop = (.error e, w')) :
    w.carry runner t.restart = ((t.forget, .error (.transport e)), w') := by
  simp only [restart, hstop, hstart]
  rw [Watch.carry_note_bind, Watch.carry_run_bind, h]
  rfl

theorem carry_restart_of_start_error {o : String} {e : TransportError} {w' w'' : Watch ρ}
    (h : w.run runner .stop stop = (.ok o, w'))
    (h' : w'.run runner .start start = (.error e, w'')) :
    w.carry runner t.restart = ((t.forget, .error (.transport e)), w'') := by
  simp only [restart, hstop, hstart]
  rw [Watch.carry_note_bind, Watch.carry_run_bind, h]
  simp only
  rw [Watch.carry_run_bind, h']
  rfl

/-- After its stop and its start a restart is a loop of polls. -/
theorem carry_restart_of_ok {o o' : String} {w' w'' : Watch ρ}
    (h : w.run runner .stop stop = (.ok o, w'))
    (h' : w'.run runner .start start = (.ok o', w'')) :
    w.carry runner t.restart = w''.carry runner (poll t.router.waitSeconds t.forget) := by
  simp only [restart, hstop, hstart]
  rw [Watch.carry_note_bind, Watch.carry_run_bind, h]
  simp only
  rw [Watch.carry_run_bind, h']
  rfl

end

theorem timeout_eq (t : Transport) : t.timeout = .timeout ((t.selection.map (·.vendor)).getD "")
    ((t.selection.map (·.exit)).getD "") t.router.waitSeconds := by
  unfold timeout
  cases t.selection <;> rfl

/-- A restart whose stop or start fails ends with that failure at once and knows of no health
check. Any other makes a health check in each second (`Polls`). It ends with the first that is `up`,
or with a timeout when there is none in all the seconds to wait. -/
theorem restart_waits {stop start : String} (hstop : t.command t.router.stopCommand = .ok stop)
    (hstart : t.command t.router.startCommand = .ok start) (runner : Runner ρ) (w : Watch ρ) :
    (∀ e s, runner w.seconds stop w.state = (.error e, s) →
      w.carry runner t.restart = ((t.forget, .error (.transport e)),
        ⟨s, w.seconds, w.ran ++ [⟨w.seconds, .stop, stop, .error e⟩]⟩)) ∧
    (∀ o s e s', runner w.seconds stop w.state = (.ok o, s) →
      runner w.seconds start s = (.error e, s') →
      w.carry runner t.restart = ((t.forget, .error (.transport e)),
        ⟨s', w.seconds, w.ran ++ [⟨w.seconds, .stop, stop, .ok o⟩,
          ⟨w.seconds, .start, start, .error e⟩]⟩)) ∧
    ∀ o s o' s', runner w.seconds stop w.state = (.ok o, s) →
      runner w.seconds start s = (.ok o', s') →
      ∃ x, Polls runner t.forget ⟨s', w.seconds, w.ran ++ [⟨w.seconds, .stop, stop, .ok o⟩,
          ⟨w.seconds, .start, start, .ok o'⟩]⟩ x ∧
        (∀ k, 1 ≤ k → k ≤ t.router.waitSeconds → (x k).1.lastProbe = .up →
          (∀ i, 1 ≤ i → i < k → (x i).1.lastProbe ≠ .up) →
          w.carry runner t.restart = (((x k).1, .ok ()), (x k).2)) ∧
        ((∀ i, 1 ≤ i → i ≤ t.router.waitSeconds → (x i).1.lastProbe ≠ .up) →
          w.carry runner t.restart = (((x t.router.waitSeconds).1,
            .error (.timeout ((t.selection.map (·.vendor)).getD "")
              ((t.selection.map (·.exit)).getD "") t.router.waitSeconds)),
            (x t.router.waitSeconds).2)) := by
  refine ⟨fun e s hs => ?_, fun o s e s' hs hs' => ?_, fun o s o' s' hs hs' => ?_⟩
  · exact carry_restart_of_stop_error hstop hstart (Watch.run_eq hs)
  · rw [carry_restart_of_start_error hstop hstart (Watch.run_eq hs) (Watch.run_eq hs'),
      List.append_assoc]
    rfl
  · have hpolls := carry_restart_of_ok hstop hstart (Watch.run_eq hs) (Watch.run_eq hs')
    rw [List.append_assoc] at hpolls
    refine ⟨_, polls_afterPolls, fun k hk hwait hup hfirst => ?_, fun hdown => ?_⟩
    · obtain ⟨k, rfl⟩ := Nat.exists_eq_add_one.2 hk
      exact hpolls.trans (carry_poll_of_up hup hfirst hwait)
    · rw [← timeout_eq]
      exact hpolls.trans (carry_poll_of_not_up hdown)

/-- A transport whose health check names the state of the last one. -/
def sampleTransport : Transport :=
  { router :=
      { stopCommand := "down", startCommand := "up",
        check := { command := "show \x7b\x7b.Connected\x7d\x7d", pattern := "tun0" },
        waitSeconds := 3 } }

/-- A runner that shows an interface after a health check that failed. -/
def sampleRunner : Runner Unit :=
  fun _ command _ => (.ok (if command = "show Disconnected" then "tun0" else ""), ())

theorem restart_waits_sample :
    sampleTransport.command sampleTransport.router.stopCommand = .ok "down" ∧
    sampleTransport.command sampleTransport.router.startCommand = .ok "up" ∧
    Watch.carry sampleRunner sampleTransport.restart ⟨(), 0, []⟩
      = (({ sampleTransport with lastProbe := .up }, .ok ()),
        ⟨(), 2, [⟨0, .stop, "down", .ok ""⟩, ⟨0, .start, "up", .ok ""⟩,
          ⟨1, .check, "show Unknown", .ok ""⟩, ⟨2, .check, "show Disconnected", .ok "tun0"⟩]⟩) := by
  have hstop : sampleTransport.command sampleTransport.router.stopCommand = .ok "down" := by
    decide +kernel
  have hstart : sampleTransport.command sampleTransport.router.startCommand = .ok "up" := by
    decide +kernel
  obtain ⟨-, -, hok⟩ := restart_waits hstop hstart sampleRunner ⟨(), 0, []⟩
  obtain ⟨x, hpolls, hup, -⟩ := hok _ _ _ _ rfl rfl
  have hfirst : (x 0).1.command sampleTransport.router.check.command = .ok "show Unknown" := by
    rw [hpolls.start]
    decide +kernel
  have h₁ : x 1 = ({ sampleTransport with lastProbe := .down }, ⟨(), 1, [⟨0, .stop, "down", .ok ""⟩,
      ⟨0, .start, "up", .ok ""⟩, ⟨1, .check, "show Unknown", .ok ""⟩]⟩) := by
    rw [hpolls.checks 0 hfirst rfl, hpolls.start]
    rfl
  have hsecond : (x 1).1.command sampleTransport.router.check.command
      = .ok "show Disconnected" := by
    rw [h₁]
    decide +kernel
  have h₂ : x 2 = ({ sampleTransport with lastProbe := .up }, ⟨(), 2, [⟨0, .stop, "down", .ok ""⟩,
      ⟨0, .start, "up", .ok ""⟩, ⟨1, .check, "show Unknown", .ok ""⟩,
      ⟨2, .check, "show Disconnected", .ok "tun0"⟩]⟩) := by
    rw [hpolls.checks 1 hsecond rfl, h₁]
    rfl
  have hdown : ∀ i, 1 ≤ i → i < 2 → (x i).1.lastProbe ≠ .up := by
    intro i hi hi'
    obtain rfl : i = 1 := by omega
    simp [h₁]
  refine ⟨hstop, hstart, ?_⟩
  rw [hup 2 (by decide) (by decide) (by rw [h₂]) hdown, h₂]

end Transport

end Egress
