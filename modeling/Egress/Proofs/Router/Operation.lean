import Egress.Proofs.Router.Command
import Egress.Proofs.Trace

/-!
# What the operations do to the router

The router is changed by two kinds of requests only, running a command and installing a file
(`Effect`); `effects` keeps those of a trace. One relation for each operation says which effects it
can have and how it then ends: `Pushed`, `Probed`, `Polled`, `Restarted`, `StatusRead`. Each of them
holds of every trace of its operation (`push_ends`, `probe_ends`, `poll_ends`, `restart_ends`,
`status_ends`), whatever the replies; later modules read these relations and no operation.
-/

set_option autoImplicit false

namespace Egress

/-- Something done to the router, and how it went. -/
inductive Effect where
  | run (purpose : Router.Purpose) (command : String) (result : Except TransportError String)
  | install (content destination : String) (mode : Nat) (result : Except TransportError Unit)

/-- Whether an effect is a health check. -/
def Effect.isCheck : Effect → Bool
  | .run .check _ _ => true
  | _ => false

/-- Whether an effect is a status command. -/
def Effect.isStatus : Effect → Bool
  | .run .status _ _ => true
  | _ => false

theorem Effect.isStatus_of_isCheck {e : Effect} (h : e.isCheck = true) : e.isStatus = false := by
  unfold isCheck at h
  split at h
  · rfl
  · cases h

theorem Effect.isCheck_of_isStatus {e : Effect} (h : e.isStatus = true) : e.isCheck = false := by
  unfold isStatus at h
  split at h
  · rfl
  · cases h

namespace Router

/-- The effect of an exchange, if it is one on the router. -/
def effect? : Exchange Router → Option Effect
  | ⟨.run purpose command, result⟩ => some (.run purpose command result)
  | ⟨.install file destination mode, result⟩ =>
    some (.install file.content destination mode result)
  | _ => none

/-- The effects of a trace, in order. -/
def effects (l : List (Exchange Router)) : List Effect :=
  l.filterMap effect?

@[simp] theorem effects_nil : effects [] = [] := rfl

@[simp] theorem effects_append (l l' : List (Exchange Router)) :
    effects (l ++ l') = effects l ++ effects l' :=
  List.filterMap_append

@[simp] theorem effects_run (purpose : Purpose) (command : String)
    (r : Reply (.run purpose command)) (l : List (Exchange Router)) :
    effects (⟨.run purpose command, r⟩ :: l) = .run purpose command r :: effects l := rfl

@[simp] theorem effects_install (file : StagedFile) (destination : String) (mode : Nat)
    (r : Reply (.install file destination mode)) (l : List (Exchange Router)) :
    effects (⟨.install file destination mode, r⟩ :: l)
      = .install file.content destination mode r :: effects l := rfl

@[simp] theorem effects_template (path : String) (r : Reply (.template path))
    (l : List (Exchange Router)) : effects (⟨.template path, r⟩ :: l) = effects l := rfl

@[simp] theorem effects_stage (destination content : String)
    (r : Reply (.stage destination content)) (l : List (Exchange Router)) :
    effects (⟨.stage destination content, r⟩ :: l) = effects l := rfl

@[simp] theorem effects_discard (file : StagedFile) (r : Reply (.discard file))
    (l : List (Exchange Router)) : effects (⟨.discard file, r⟩ :: l) = effects l := rfl

@[simp] theorem effects_pause (r : Reply .pause) (l : List (Exchange Router)) :
    effects (⟨.pause, r⟩ :: l) = effects l := rfl

@[simp] theorem effects_note (n : Note) (r : Reply (.note n)) (l : List (Exchange Router)) :
    effects (⟨.note n, r⟩ :: l) = effects l := rfl

end Router

/-- What a reply to the health check's command says about the tunnel. -/
def RouterSettings.verdict (r : RouterSettings) : Except TransportError String → Connectivity
  | .ok output => if Text.occursIn r.check.pattern.toList output.toList then .up else .down
  | .error _ => .down

namespace Transport

open Router Procedure

/-- The transport that knows of no health check of the restart. -/
def forget (t : Transport) : Transport :=
  { t with lastProbe := .unknown }

/-! ## The relations -/

/-- Pushing a configuration made these exchanges and had this result. -/
inductive Pushed (t : Transport) (vendor exit : String) :
    List (Exchange Router) → Except TransportError Unit → Prop
  | missing : Keyed.get? vendor t.templates = none →
      Pushed t vendor exit [] (.error (.missingTemplate vendor))
  | unread {file : String} (fault : Fault) : Keyed.get? vendor t.templates = some file →
      Pushed t vendor exit [⟨.template file, .error fault⟩]
        (.error (.render (.unreadable file fault)))
  | unrendered {file text : String} {e : RenderError} :
      Keyed.get? vendor t.templates = some file →
      Template.render (exitVariables vendor exit) text = .error e →
      Pushed t vendor exit [⟨.template file, .ok text⟩] (.error (.render e))
  | unstaged {file text content : String} (fault : Fault) :
      Keyed.get? vendor t.templates = some file →
      Template.render (exitVariables vendor exit) text = .ok content →
      Pushed t vendor exit
        [⟨.template file, .ok text⟩, ⟨.stage t.router.configFile content, .error fault⟩]
        (.error (.io fault))
  | installed {file text content : String} (staged : String) (n : Note)
      (r : Except TransportError Unit) : Keyed.get? vendor t.templates = some file →
      Template.render (exitVariables vendor exit) text = .ok content →
      Pushed t vendor exit
        [⟨.template file, .ok text⟩, ⟨.stage t.router.configFile content, .ok staged⟩,
          ⟨.note n, ()⟩, ⟨.install ⟨staged, content⟩ t.router.configFile t.router.configMode, r⟩,
          ⟨.discard ⟨staged, content⟩, ()⟩] r

/-- A health check had these effects and this result. -/
inductive Probed (t : Transport) : List Effect → Connectivity → Prop
  | unrendered {e : TransportError} : t.command t.router.check.command = .error e →
      Probed t [] .unknown
  | ran {command : String} (reply : Except TransportError String) :
      t.command t.router.check.command = .ok command →
      Probed t [.run .check command reply] (t.router.verdict reply)

/-- Up to `n` health checks in a row had these effects and led to this transport and result. -/
inductive Polled : Nat → Transport → List Effect → Transport × Except RestartError Unit → Prop
  | timeout (t : Transport) : Polled 0 t [] (t, .error t.timeout)
  | again {n : Nat} {t : Transport} {es es' : List Effect} {c : Connectivity}
      {x : Transport × Except RestartError Unit} : Probed t es c → c.isUp = false →
      Polled n { t with lastProbe := c } es' x → Polled (n + 1) t (es ++ es') x
  | up {n : Nat} {t : Transport} {es : List Effect} : Probed t es .up →
      Polled (n + 1) t es ({ t with lastProbe := .up }, .ok ())

/-- A restart had these effects and led to this transport and result. -/
inductive Restarted (t : Transport) :
    List Effect → Transport × Except RestartError Unit → Prop
  | stopUnrendered {e : TransportError} : t.command t.router.stopCommand = .error e →
      Restarted t [] (t, .error (.transport e))
  | startUnrendered {e : TransportError} : t.command t.router.startCommand = .error e →
      Restarted t [] (t, .error (.transport e))
  | stopFailed {stop start : String} (e : TransportError) :
      t.command t.router.stopCommand = .ok stop → t.command t.router.startCommand = .ok start →
      Restarted t [.run .stop stop (.error e)] (t.forget, .error (.transport e))
  | startFailed {stop start : String} (o : String) (e : TransportError) :
      t.command t.router.stopCommand = .ok stop → t.command t.router.startCommand = .ok start →
      Restarted t [.run .stop stop (.ok o), .run .start start (.error e)]
        (t.forget, .error (.transport e))
  | polled {stop start : String} (o o' : String) {es : List Effect}
      {x : Transport × Except RestartError Unit} :
      t.command t.router.stopCommand = .ok stop → t.command t.router.startCommand = .ok start →
      Polled t.router.waitSeconds t.forget es x →
      Restarted t (.run .stop stop (.ok o) :: .run .start start (.ok o') :: es) x

/-- Reading the status had these effects and this result. -/
inductive StatusRead (t : Transport) : List Effect → Except TransportError String → Prop
  | unrendered {e : TransportError} : t.command t.router.statusCommand = .error e →
      StatusRead t [] (.error e)
  | ran {command : String} (r : Except TransportError String) :
      t.command t.router.statusCommand = .ok command →
      StatusRead t [.run .status command r] r

/-! ## The operations follow them -/

theorem push_ends {t : Transport} {vendor exit : String} {l : List (Exchange Router)}
    {r : Except TransportError Unit} (h : (t.push vendor exit).Ends l r) :
    Pushed t vendor exit l r := by
  unfold push at h
  split at h
  · rename_i hfile
    obtain ⟨rfl, rfl⟩ := ends_done.1 h
    exact .missing hfile
  rename_i file hfile
  obtain ⟨read, l₁, rfl, h₁⟩ := ends_perform_bind.1 h
  split at h₁
  · obtain ⟨rfl, rfl⟩ := ends_done.1 h₁
    exact .unread _ hfile
  split at h₁
  · rename_i he
    obtain ⟨rfl, rfl⟩ := ends_done.1 h₁
    exact .unrendered hfile he
  rename_i content hcontent
  obtain ⟨staged, l₂, rfl, h₂⟩ := ends_perform_bind.1 h₁
  split at h₂
  · obtain ⟨rfl, rfl⟩ := ends_done.1 h₂
    exact .unstaged _ hfile hcontent
  obtain ⟨_, l₃, rfl, h₃⟩ := ends_perform_bind.1 h₂
  obtain ⟨result, l₄, rfl, h₄⟩ := ends_perform_bind.1 h₃
  obtain ⟨_, l₅, rfl, h₅⟩ := ends_perform_bind.1 h₄
  obtain ⟨rfl, rfl⟩ := ends_done.1 h₅
  exact .installed _ _ _ hfile hcontent

theorem probe_ends {t : Transport} {l : List (Exchange Router)} {c : Connectivity}
    (h : t.probe.Ends l c) : Probed t (effects l) c := by
  unfold probe at h
  split at h
  · rename_i e he
    obtain ⟨_, l₁, rfl, h₁⟩ := ends_perform_bind.1 h
    obtain ⟨rfl, rfl⟩ := ends_done.1 h₁
    exact .unrendered he
  rename_i command hc
  obtain ⟨reply, l₁, rfl, h₁⟩ := ends_perform_bind.1 h
  have hran := Probed.ran reply hc
  split at h₁
  · split at h₁
    all_goals
      rename_i hm
      obtain ⟨rfl, rfl⟩ := ends_done.1 h₁
      simpa [RouterSettings.verdict, hm] using hran
  · obtain ⟨_, l₂, rfl, h₂⟩ := ends_perform_bind.1 h₁
    obtain ⟨rfl, rfl⟩ := ends_done.1 h₂
    simpa [RouterSettings.verdict] using hran

theorem poll_ends {n : Nat} {t : Transport} {l : List (Exchange Router)}
    {x : Transport × Except RestartError Unit} (h : (poll n t).Ends l x) :
    Polled n t (effects l) x := by
  induction n generalizing t l with
  | zero =>
    obtain ⟨rfl, rfl⟩ := ends_done.1 h
    exact .timeout t
  | succ n ih =>
    unfold poll at h
    obtain ⟨_, l₁, rfl, h₁⟩ := ends_perform_bind.1 h
    obtain ⟨l₂, c, l₃, rfl, h₂, h₃⟩ := ends_bind.1 h₁
    have hp := probe_ends h₂
    rw [effects_pause, effects_append]
    split at h₃
    · rename_i hup
      obtain ⟨_, l₄, rfl, h₄⟩ := ends_perform_bind.1 h₃
      obtain ⟨rfl, rfl⟩ := ends_done.1 h₄
      obtain rfl : c = .up := by cases c <;> simp_all [Connectivity.isUp]
      simpa using Polled.up hp
    · rename_i hup
      obtain ⟨_, l₄, rfl, h₄⟩ := ends_perform_bind.1 h₃
      rw [effects_note]
      exact .again hp (by simpa using hup) (ih h₄)

theorem restart_ends {t : Transport} {l : List (Exchange Router)}
    {x : Transport × Except RestartError Unit} (h : t.restart.Ends l x) :
    Restarted t (effects l) x := by
  unfold restart at h
  split at h
  · rename_i he
    obtain ⟨rfl, rfl⟩ := ends_done.1 h
    exact .stopUnrendered he
  · rename_i he
    obtain ⟨rfl, rfl⟩ := ends_done.1 h
    exact .startUnrendered he
  rename_i stop start hstop hstart
  obtain ⟨_, l₁, rfl, h₁⟩ := ends_perform_bind.1 h
  obtain ⟨stopped, l₂, rfl, h₂⟩ := ends_perform_bind.1 h₁
  split at h₂
  · obtain ⟨rfl, rfl⟩ := ends_done.1 h₂
    exact .stopFailed _ hstop hstart
  obtain ⟨started, l₃, rfl, h₃⟩ := ends_perform_bind.1 h₂
  split at h₃
  · obtain ⟨rfl, rfl⟩ := ends_done.1 h₃
    exact .startFailed _ _ hstop hstart
  exact .polled _ _ hstop hstart (poll_ends h₃)

theorem status_ends {t : Transport} {l : List (Exchange Router)}
    {r : Except TransportError String} (h : t.status.Ends l r) :
    StatusRead t (effects l) r := by
  unfold status at h
  split at h
  · rename_i he
    obtain ⟨rfl, rfl⟩ := ends_done.1 h
    exact .unrendered he
  · rename_i hc
    obtain ⟨reply, l₁, rfl, h₁⟩ := ends_ask.1 h
    obtain ⟨rfl, rfl⟩ := ends_done.1 h₁
    exact .ran _ hc

end Transport

end Egress
