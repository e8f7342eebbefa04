import Egress.Proofs.Directory.Distinct
import Egress.Proofs.Router.Operation
import Egress.Router.Session

/-!
# Courses of a session

`s.Makes p l s' p'`: a call of which `p` is still to be done makes the exchanges `l` on the session
`s`, after which the session is `s'` and `p'` is left of the call. The session answers as
`Session.answer` does, with any replies of the router; before each request the directories may have
been refreshed to any others. `s₀.Serves h s`: the calls in `h` were made on `s₀` one after the
other and left `s`. Every run of the program is one of these (`makes_call`, `serves_call`).
-/

set_option autoImplicit false

namespace Egress

/-- A call on a session. -/
inductive Call where
  | select (vendor exit : String)
  | check
  | refreshStatus
  deriving DecidableEq, Repr

namespace Call

/-- What a call gives. -/
@[reducible] def Result : Call → Type
  | select .. => Except SelectError TunnelState
  | check => Connectivity
  | refreshStatus => Except TransportError String

/-- What a call does. -/
def procedure : (c : Call) → Procedure SessionAccess c.Result
  | select vendor exit => Session.select vendor exit
  | check => Session.check
  | refreshStatus => Session.refreshStatus

end Call

/-- A call that was made: its exchanges, in order, and its result. -/
structure Performed where
  call : Call
  exchanges : List (Exchange SessionAccess)
  result : call.Result

namespace SessionAccess

/-- An exchange with the router in a call. -/
def lift (x : Exchange Router) : Exchange SessionAccess :=
  ⟨.router x.request, x.reply⟩

/-- The effect on the router of an exchange, if it has one. -/
def effect? : Exchange SessionAccess → Option Effect
  | ⟨.router q, r⟩ => Router.effect? ⟨q, r⟩
  | _ => none

/-- The effects on the router of some exchanges, in order. -/
def effects (l : List (Exchange SessionAccess)) : List Effect :=
  l.filterMap effect?

@[simp] theorem onRouter_done {α : Type} (a : α) : onRouter (.done a) = .done a := rfl

@[simp] theorem onRouter_ask {α : Type} (q : Router.Request)
    (k : Router.Reply q → Procedure Router α) :
    onRouter (.ask q k) = .ask (.router q) fun r => onRouter (k r) := rfl

@[simp] theorem effects_nil : effects [] = [] := rfl

@[simp] theorem effects_append (l l' : List (Exchange SessionAccess)) :
    effects (l ++ l') = effects l ++ effects l' :=
  List.filterMap_append

@[simp] theorem effects_map_lift (l : List (Exchange Router)) :
    effects (l.map lift) = Router.effects l := by
  simp only [effects, Router.effects, List.filterMap_map]
  rfl

@[simp] theorem effects_acquire (r : Reply .acquire) (l : List (Exchange SessionAccess)) :
    effects (⟨.acquire, r⟩ :: l) = effects l := rfl

@[simp] theorem effects_release (t : Transport) (r : Reply (.release t))
    (l : List (Exchange SessionAccess)) : effects (⟨.release t, r⟩ :: l) = effects l := rfl

@[simp] theorem effects_directory (vendor : String) (r : Reply (.directory vendor))
    (l : List (Exchange SessionAccess)) : effects (⟨.directory vendor, r⟩ :: l) = effects l := rfl

@[simp] theorem effects_publish (change : TunnelState → TunnelState) (r : Reply (.publish change))
    (l : List (Exchange SessionAccess)) : effects (⟨.publish change, r⟩ :: l) = effects l := rfl

@[simp] theorem effects_snapshot (r : Reply .snapshot) (l : List (Exchange SessionAccess)) :
    effects (⟨.snapshot, r⟩ :: l) = effects l := rfl

end SessionAccess

/-- What a call did to the router, in order. -/
def Performed.effects (p : Performed) : List Effect :=
  SessionAccess.effects p.exchanges

/-- A call with its exchanges, whatever its result. -/
def Performed.course (p : Performed) : Call × List (Exchange SessionAccess) :=
  (p.call, p.exchanges)

namespace Session

/-- The session of a new controller. -/
def fresh (registry : Registry) (router : RouterSettings) (templates : List (String × String)) :
    Session :=
  { registry, transport := { router, templates } }

/-- The directories were refreshed, to any that have each key of a map once. -/
def Refreshed (s s' : Session) : Prop :=
  s'.registry.Distinct ∧ s'.transport = s.transport ∧ s'.published = s.published

/-- A session can give this reply and is then another (module doc). -/
def Answers (s : Session) (q : SessionAccess.Request) (r : SessionAccess.Reply q)
    (s' : Session) : Prop :=
  ∃ s₁, s.Refreshed s₁ ∧
    ∃ router : (q : Router.Request) → Id (Router.Reply q), (answer router q).run s₁ = (r, s')

/-- A call makes some exchanges (module doc). -/
inductive Makes {α : Type} : Session → Procedure SessionAccess α → List (Exchange SessionAccess) →
    Session → Procedure SessionAccess α → Prop
  | nothing (s : Session) (p : Procedure SessionAccess α) : Makes s p [] s p
  | ask {s s₁ s₂ : Session} {q : SessionAccess.Request} {r : SessionAccess.Reply q}
      {k : SessionAccess.Reply q → Procedure SessionAccess α}
      {p : Procedure SessionAccess α} {l : List (Exchange SessionAccess)} :
      s.Answers q r s₁ → Makes s₁ (k r) l s₂ p → Makes s (.ask q k) (⟨q, r⟩ :: l) s₂ p

/-- Calls are made one after the other (module doc). -/
inductive Serves (s₀ : Session) : List Performed → Session → Prop
  | start : Serves s₀ [] s₀
  | call {h : List Performed} {s s' : Session} {l : List (Exchange SessionAccess)} (c : Call)
      {r : c.Result} :
      Serves s₀ h s → s.Makes c.procedure l s' (.done r) → Serves s₀ (h ++ [⟨c, l, r⟩]) s'

/-! ## Answers -/

section
variable {s s' : Session}

theorem Answers.acquire {r : Transport} (h : s.Answers .acquire r s') :
    r = s.transport ∧ s'.transport = s.transport ∧ s'.published = s.published := by
  obtain ⟨s₁, ⟨-, ht, hv⟩, router, he⟩ := h
  obtain ⟨rfl, rfl⟩ := Prod.mk.inj he
  exact ⟨ht, ht, hv⟩

theorem Answers.release {t : Transport} {r : Unit} (h : s.Answers (.release t) r s') :
    s'.transport = t ∧ s'.published = s.published := by
  obtain ⟨s₁, ⟨-, -, hv⟩, router, he⟩ := h
  obtain ⟨-, rfl⟩ := Prod.mk.inj he
  exact ⟨rfl, hv⟩

theorem Answers.directory {vendor : String} {r : Option Directory}
    (h : s.Answers (.directory vendor) r s') :
    (∀ d, r = some d → d.root.Distinct) ∧ s'.transport = s.transport ∧
      s'.published = s.published := by
  obtain ⟨s₁, ⟨hd, ht, hv⟩, router, he⟩ := h
  obtain ⟨hr, rfl⟩ := Prod.mk.inj he
  exact ⟨fun d hd' => hd.get? (hr.trans hd'), ht, hv⟩

theorem Answers.publish {change : TunnelState → TunnelState} {r : Unit}
    (h : s.Answers (.publish change) r s') :
    s'.transport = s.transport ∧ s'.published = s.published.modify change := by
  obtain ⟨s₁, ⟨-, ht, hv⟩, router, he⟩ := h
  obtain ⟨-, rfl⟩ := Prod.mk.inj he
  exact ⟨ht, congrArg (Channel.modify change) hv⟩

theorem Answers.snapshot {r : TunnelState} (h : s.Answers .snapshot r s') :
    r = s.published.value ∧ s'.transport = s.transport ∧ s'.published = s.published := by
  obtain ⟨s₁, ⟨-, ht, hv⟩, router, he⟩ := h
  obtain ⟨rfl, rfl⟩ := Prod.mk.inj he
  exact ⟨congrArg Channel.value hv, ht, hv⟩

theorem Answers.router {q : Router.Request} {r : Router.Reply q}
    (h : s.Answers (.router q) r s') :
    s'.transport = s.transport ∧ s'.published = s.published := by
  obtain ⟨s₁, ⟨-, ht, hv⟩, router, he⟩ := h
  obtain ⟨-, rfl⟩ := Prod.mk.inj he
  exact ⟨ht, hv⟩

end

theorem makes_nil {α : Type} {s s' : Session} {p p' : Procedure SessionAccess α}
    (h : s.Makes p [] s' p') : s' = s ∧ p' = p := by
  generalize hl : ([] : List (Exchange SessionAccess)) = l at h
  cases h with
  | nothing => exact ⟨rfl, rfl⟩
  | ask => cases hl

theorem makes_append {α : Type} {s s' : Session} {p p' : Procedure SessionAccess α}
    {l₁ l₂ : List (Exchange SessionAccess)} :
    s.Makes p (l₁ ++ l₂) s' p' ↔
      ∃ s₁ p₁, s.Makes p l₁ s₁ p₁ ∧ s₁.Makes p₁ l₂ s' p' := by
  constructor
  · intro h
    induction l₁ generalizing s p with
    | nil => exact ⟨s, p, .nothing s p, h⟩
    | cons x l₁ ih =>
      cases h with
      | ask ha h =>
        obtain ⟨s₁, p₁, h₁, h₂⟩ := ih h
        exact ⟨s₁, p₁, .ask ha h₁, h₂⟩
  · rintro ⟨s₁, p₁, h₁, h₂⟩
    induction h₁ with
    | nothing s p => exact h₂
    | ask ha _ ih => exact .ask ha (ih h₂)

/-! ## Sessions that differ in their directories only -/

/-- The same transport, and the same is published. -/
structure Agrees (s s' : Session) : Prop where
  transport_eq : s'.transport = s.transport
  published_eq : s'.published = s.published

theorem Agrees.refl (s : Session) : s.Agrees s := ⟨rfl, rfl⟩

section
variable {s s' s'' : Session}

theorem Agrees.symm (h : s.Agrees s') : s'.Agrees s :=
  ⟨h.transport_eq.symm, h.published_eq.symm⟩

theorem Agrees.trans (h : s.Agrees s') (h' : s'.Agrees s'') : s.Agrees s'' :=
  ⟨h'.transport_eq.trans h.transport_eq, h'.published_eq.trans h.published_eq⟩

theorem Agrees.answers {q : SessionAccess.Request} {r : SessionAccess.Reply q}
    (h : s.Agrees s') (ha : s.Answers q r s'') : s'.Answers q r s'' := by
  obtain ⟨s₁, ⟨hd, ht, hv⟩, hr⟩ := ha
  exact ⟨s₁, ⟨hd, ht.trans h.transport_eq.symm, hv.trans h.published_eq.symm⟩, hr⟩

theorem Agrees.makes {α : Type} {p p' : Procedure SessionAccess α} {x : Exchange SessionAccess}
    {l : List (Exchange SessionAccess)} (h : s.Agrees s') (hm : s.Makes p (x :: l) s'' p') :
    s'.Makes p (x :: l) s'' p' := by
  cases hm with
  | ask ha hm => exact .ask (h.answers ha) hm

end

theorem makes_ne_nil {c : Call} {s s' : Session} {l : List (Exchange SessionAccess)} {r : c.Result}
    (h : s.Makes c.procedure l s' (.done r)) : l ≠ [] := by
  rintro rfl
  have hdone := (makes_nil h).2
  cases c with
  | select => cases hdone
  | check => cases hdone
  | refreshStatus => cases hdone

/-- Calls that can be made on a session can be made on one that agrees with it. -/
theorem Agrees.serves {s s' u : Session} {h : List Performed} (ha : s.Agrees s')
    (hs : s.Serves h u) : (h = [] ∧ u = s) ∨ s'.Serves h u := by
  induction hs with
  | start => exact .inl ⟨rfl, rfl⟩
  | @call h s₁ s₂ l c r _ hm ih =>
    right
    rcases ih with ⟨rfl, rfl⟩ | ih
    · obtain ⟨x, l, rfl⟩ := List.exists_cons_of_ne_nil (makes_ne_nil hm)
      exact .call c .start (ha.makes hm)
    · exact .call c ih hm

/-! ## A course is determined by its exchanges -/

section
variable {s s' u u' : Session}

theorem Answers.unique {q : SessionAccess.Request} {r : SessionAccess.Reply q}
    (h : s.Answers q r u) (h' : s.Answers q r u') : u.Agrees u' := by
  cases q with
  | acquire => exact ⟨h'.acquire.2.1.trans h.acquire.2.1.symm,
      h'.acquire.2.2.trans h.acquire.2.2.symm⟩
  | release t => exact ⟨h'.release.1.trans h.release.1.symm, h'.release.2.trans h.release.2.symm⟩
  | directory vendor => exact ⟨h'.directory.2.1.trans h.directory.2.1.symm,
      h'.directory.2.2.trans h.directory.2.2.symm⟩
  | publish change => exact ⟨h'.publish.1.trans h.publish.1.symm,
      h'.publish.2.trans h.publish.2.symm⟩
  | snapshot => exact ⟨h'.snapshot.2.1.trans h.snapshot.2.1.symm,
      h'.snapshot.2.2.trans h.snapshot.2.2.symm⟩
  | router q => exact ⟨h'.router.1.trans h.router.1.symm, h'.router.2.trans h.router.2.symm⟩

theorem Makes.unique {α : Type} {p p₁ p₂ : Procedure SessionAccess α}
    {l : List (Exchange SessionAccess)} (h : s.Makes p l u p₁) (h' : s'.Makes p l u' p₂)
    (ha : s.Agrees s') : u.Agrees u' ∧ p₁ = p₂ := by
  induction h generalizing s' with
  | nothing s p =>
    obtain ⟨rfl, rfl⟩ := makes_nil h'
    exact ⟨ha, rfl⟩
  | ask hans _ ih =>
    cases h' with
    | ask hans' h' => exact ih h' ((ha.answers hans).unique hans')

end

/-- Calls that make the same exchanges one after the other give the same results. -/
theorem Serves.unique {s₀ s s' : Session} {h h' : List Performed} (hs : s₀.Serves h s)
    (hs' : s₀.Serves h' s') (hh : h.map Performed.course = h'.map Performed.course) :
    h = h' ∧ s.Agrees s' := by
  induction hs generalizing h' s' with
  | start =>
    cases hs' with
    | start => exact ⟨rfl, .refl _⟩
    | call => simp at hh
  | call c _ hm ih =>
    cases hs' with
    | start => simp at hh
    | call c' hs' hm' =>
      rw [List.map_append, List.map_append] at hh
      obtain ⟨hh, hx⟩ := List.append_inj' hh rfl
      obtain ⟨rfl, ha⟩ := ih hs' hh
      obtain ⟨rfl, rfl⟩ := Prod.mk.inj (List.cons.inj hx).1
      obtain ⟨ha, hr⟩ := hm.unique hm' ha
      cases hr
      exact ⟨rfl, ha⟩

/-! ## Runs of the program -/

section
variable {σ α : Type} (router : (q : Router.Request) → StateM σ (Router.Reply q))

theorem answers_answer (q : SessionAccess.Request) (s : Session) (hs : s.registry.Distinct)
    (w : σ) :
    s.Answers q (((answer router q).run s).run w).1.1 (((answer router q).run s).run w).1.2 := by
  refine ⟨s, ⟨hs, rfl, rfl⟩, fun q' => ((router q').run w).1, ?_⟩
  cases q <;> rfl

theorem registry_answer (q : SessionAccess.Request) (s : Session) (w : σ) :
    (((answer router q).run s).run w).1.2.registry = s.registry := by
  cases q <;> rfl

theorem registry_call (p : Procedure SessionAccess α) (s : Session) (w : σ) :
    ((call router p s).run w).1.2.registry = s.registry := by
  induction p generalizing s w with
  | done a => rfl
  | ask q k ih => exact (ih _ _ _).trans (registry_answer router q s w)

/-- The exchanges of a call that is run with a router. -/
def exchanges : Procedure SessionAccess α → Session → σ → List (Exchange SessionAccess)
  | .done _, _, _ => []
  | .ask q k, s, w =>
    let x := ((answer router q).run s).run w
    ⟨q, x.1.1⟩ :: exchanges (k x.1.1) x.1.2 x.2

/-- The replies in a list of exchanges are those that the session gives with the router. -/
def Follows : List (Exchange SessionAccess) → Session → σ → Prop
  | [], _, _ => True
  | x :: l, s, w =>
    let y := ((answer router x.request).run s).run w
    x.reply = y.1.1 ∧ Follows l y.1.2 y.2

theorem follows_exchanges (p : Procedure SessionAccess α) (s : Session) (w : σ) :
    Follows router (exchanges router p s w) s w := by
  induction p generalizing s w with
  | done a => trivial
  | ask q k ih => exact ⟨rfl, ih _ _ _⟩

/-- Whatever router a call is run with, it makes its exchanges and ends. -/
theorem makes_call (p : Procedure SessionAccess α) (s : Session) (hs : s.registry.Distinct)
    (w : σ) :
    s.Makes p (exchanges router p s w) ((call router p s).run w).1.2
      (.done ((call router p s).run w).1.1) := by
  induction p generalizing s w with
  | done a => exact .nothing s _
  | ask q k ih =>
    have hr := registry_answer router q s w
    have hrest := ih (((answer router q).run s).run w).1.1 (((answer router q).run s).run w).1.2
      (hr ▸ hs) (((answer router q).run s).run w).2
    exact .ask (answers_answer router q s hs w) hrest

/-- A call that is run after others continues their course. -/
theorem serves_call {s₀ s : Session} {h : List Performed} (hh : s₀.Serves h s)
    (hs : s.registry.Distinct) (c : Call) (w : σ) :
    s₀.Serves
      (h ++ [⟨c, exchanges router c.procedure s w, ((call router c.procedure s).run w).1.1⟩])
      ((call router c.procedure s).run w).1.2 :=
  hh.call c (makes_call router c.procedure s hs w)

end

/-! ## A small session -/

namespace Sample

/-- A vendor with two exits in one list. -/
def registry : Registry :=
  ⟨[("acme", { value := { name := "acme", root := .list ["a", "b"] } })]⟩

/-- Commands that name themselves; the start command also names the exit. -/
def settings : RouterSettings where
  stopCommand := "stop"
  startCommand := "start {{ .Exit }}"
  statusCommand := "status"
  check := { command := "check", pattern := "check" }

/-- The new session. -/
def session : Session :=
  fresh registry settings [("acme", "acme.conf")]

/-- A router where the commands in `broken` fail and all others print themselves. -/
def router (broken : List String) : (q : Router.Request) → StateM Unit (Router.Reply q)
  | .run _ command => pure (if command ∈ broken then .error .emptyCommand else .ok command)
  | .template _ => pure (.ok "")
  | .stage destination _ => pure (.ok destination)
  | .install .. => pure (.ok ())
  | .discard _ => pure ()
  | .pause => pure ()
  | .note _ => pure ()

/-- The session after one more call, on a router with these commands broken. -/
def after (broken : List String) (c : Call) (s : Session) : Session :=
  ((call (router broken) c.procedure s).run ()).1.2

theorem distinct : registry.Distinct := by
  intro e he
  obtain rfl := List.mem_singleton.1 he
  trivial

/-- That call with its exchanges and what it gives. -/
def performed (broken : List String) (c : Call) (s : Session) : Performed :=
  ⟨c, exchanges (router broken) c.procedure s (),
    ((call (router broken) c.procedure s).run ()).1.1⟩

theorem registry_after (broken : List String) (c : Call) (s : Session) :
    (after broken c s).registry = s.registry :=
  registry_call (router broken) c.procedure s ()

/-- A course of calls and the call after it. -/
theorem serves_after {h : List Performed} {s : Session} (hs : session.Serves h s)
    (hr : s.registry = registry) (broken : List String) (c : Call) :
    session.Serves (h ++ [performed broken c s]) (after broken c s) :=
  serves_call (router broken) hs (hr ▸ distinct) c ()

end Sample

end Session

end Egress
