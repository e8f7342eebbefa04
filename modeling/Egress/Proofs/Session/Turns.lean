import Mathlib.Data.List.Basic
import Egress.Proofs.Session.Course
import Egress.Router.Traffic

/-!
# Calls take turns

`x.Goes log y`: the calls in flight `x` made the exchanges in `log`, each of them one call's, in any
order between the calls that the lock on the transport admits, and are then `y`. A call makes no
exchange without having the transport: it begins by taking it, and giving it back is the last thing
it does (`procedure_begins`, `Holding`). So the calls have their turns one after the other, in the
order in which they took the transport (`InTurn`), and everything is as if each had been made when
the one before had ended. Every run of the program goes this way (`goes_run`, `goes_rounds`).
-/

set_option autoImplicit false

namespace Egress

/-! ## Having the transport -/

namespace SessionAccess

/-- Whether a request leaves the transport with whoever has it. -/
def Request.keepsTransport : Request → Bool
  | .acquire | .release _ => false
  | _ => true

/-- A part of a call in which the transport stays where it is. -/
inductive Staying {α : Type} : Procedure SessionAccess α → Prop
  | done (a : α) : Staying (.done a)
  | ask {q : Request} {k : Reply q → Procedure SessionAccess α} : q.keepsTransport = true →
      (∀ r, Staying (k r)) → Staying (.ask q k)

/-- What is left of a call that has the transport: it is done as soon as it gives it back. -/
inductive Holding {α : Type} : Procedure SessionAccess α → Prop
  | release {t : Transport} {k : Unit → Procedure SessionAccess α} (a : α) : k () = .done a →
      Holding (.ask (.release t) k)
  | ask {q : Request} {k : Reply q → Procedure SessionAccess α} : q.keepsTransport = true →
      (∀ r, Holding (k r)) → Holding (.ask q k)

section
variable {α β : Type} {p : Procedure SessionAccess α} {f : α → Procedure SessionAccess β}

theorem Staying.bind (hp : Staying p) (hf : ∀ a, Staying (f a)) : Staying (p >>= f) := by
  induction hp with
  | done a => exact hf a
  | ask hq _ ih => exact .ask hq ih

theorem Staying.holding_bind (hp : Staying p) (hf : ∀ a, Holding (f a)) : Holding (p >>= f) := by
  induction hp with
  | done a => exact hf a
  | ask hq _ ih => exact .ask hq ih

theorem staying_perform {q : Request} (hq : q.keepsTransport = true) :
    Staying (.perform (S := SessionAccess) q) :=
  .ask hq .done

theorem staying_onRouter (p : Procedure Router α) : Staying (onRouter p) := by
  induction p with
  | done a => exact .done a
  | ask q k ih => exact .ask rfl ih

theorem exclusive_begins {body : Transport → Procedure SessionAccess (Transport × α)}
    (hb : ∀ t, Staying (body t)) :
    ∃ k : Transport → Procedure SessionAccess α, exclusive body = .ask .acquire k ∧
      ∀ t, Holding (k t) :=
  ⟨_, rfl, fun t => (hb t).holding_bind fun x => .release x.2 rfl⟩

end

end SessionAccess

namespace Session

open SessionAccess

theorem staying_bringUp (t : Transport) (s : Selection) : Staying (bringUp t s) := by
  refine (staying_onRouter _).bind fun ⟨t', restarted⟩ => ?_
  cases restarted with
  | error e => exact (staying_perform rfl).bind fun _ => (staying_onRouter _).bind fun _ => .done _
  | ok u =>
    refine (staying_onRouter _).bind fun status => ?_
    cases status with
    | error e => exact .done _
    | ok text => exact (staying_perform rfl).bind fun _ => (staying_perform rfl).bind fun _ => .done _

theorem select_begins (vendor exit : String) :
    ∃ k : Transport → Procedure SessionAccess (Except SelectError TunnelState),
      select vendor exit = .ask .acquire k ∧ ∀ t, Holding (k t) := by
  refine exclusive_begins fun t => (staying_perform rfl).bind fun d => ?_
  cases d with
  | none => exact .done _
  | some d =>
    cases hpath : d.find? exit with
    | none =>
      simp only [hpath]
      exact .done _
    | some path =>
      simp only [hpath]
      refine (staying_onRouter _).bind fun _ => (staying_onRouter _).bind fun pushed => ?_
      cases pushed with
      | error e => exact .done _
      | ok u => exact (staying_perform rfl).bind fun _ => staying_bringUp _ _

theorem check_begins :
    ∃ k : Transport → Procedure SessionAccess Connectivity,
      check = .ask .acquire k ∧ ∀ t, Holding (k t) :=
  exclusive_begins fun _ => (staying_onRouter _).bind fun _ => (staying_perform rfl).bind fun _ => .done _

theorem refreshStatus_begins :
    ∃ k : Transport → Procedure SessionAccess (Except TransportError String),
      refreshStatus = .ask .acquire k ∧ ∀ t, Holding (k t) := by
  refine exclusive_begins fun t => (staying_onRouter _).bind fun status => ?_
  cases status with
  | error e => exact .done _
  | ok text => exact (staying_perform rfl).bind fun _ => .done _

/-- A call takes the transport first, and is done as soon as it gives it back. -/
theorem procedure_begins (c : Call) :
    ∃ k : Transport → Procedure SessionAccess c.Result, c.procedure = .ask .acquire k ∧
      ∀ t, Holding (k t) := by
  cases c with
  | select vendor exit => exact select_begins vendor exit
  | check => exact check_begins
  | refreshStatus => exact refreshStatus_begins

end Session

/-! ## Calls in flight and what they do -/

namespace Call

/-- What a call gave, with the call. -/
abbrev Outcome := (c : Call) × c.Result

/-- A part of a call, as one of several that are in flight. -/
def inFlight (c : Call) (p : Procedure SessionAccess c.Result) : Procedure SessionAccess Outcome :=
  p >>= fun r => .done ⟨c, r⟩

end Call

namespace Traffic

open SessionAccess

/-- Calls in flight of which none has begun. -/
def ofCalls (s : Session) (cs : List Call) : Traffic Call.Outcome :=
  { session := s, calls := cs.map fun c => c.inFlight c.procedure }

/-- What calls in flight did, in order, each exchange with the number of its call. -/
abbrev Log := List (Nat × Exchange SessionAccess)

/-- The call that took the transport in an exchange. -/
def taker? : Nat × Exchange SessionAccess → Option Nat
  | (i, ⟨.acquire, _⟩) => some i
  | _ => none

/-- The calls that took the transport, in order. -/
def takers (log : Log) : List Nat :=
  log.filterMap taker?

/-- The exchanges of one call. -/
def own (i : Nat) (log : Log) : List (Exchange SessionAccess) :=
  (log.filter fun e => e.1 == i).map Prod.snd

/-- What a call did, when it has ended. -/
def performed? (y : Traffic Call.Outcome) (log : Log) (i : Nat) : Option Performed :=
  match y.calls[i]? with
  | some (.done ⟨c, r⟩) => some ⟨c, own i log, r⟩
  | _ => none

/-- What the calls did that have ended, in the order of their turns. -/
def performed (y : Traffic Call.Outcome) (log : Log) : List Performed :=
  (takers log).filterMap (performed? y log)

/-- Calls in flight make exchanges (module doc). -/
inductive Goes {α : Type} (x : Traffic α) : Log → Traffic α → Prop
  | start : Goes x [] x
  | step {log : Log} {y : Traffic α} {i : Nat} {q : Request} {r : Reply q}
      {k : Reply q → Procedure SessionAccess α} {s : Session} : Goes x log y →
      y.calls[i]? = some (.ask q k) → y.waits q = false → y.session.Answers q r s →
      Goes x (log ++ [(i, ⟨q, r⟩)]) ⟨s, holderAfter i y.holder q, y.calls.set i (k r)⟩

section
variable {log : Log} {i j : Nat} {x : Exchange SessionAccess}

theorem takers_append_acquire (log : Log) (i : Nat) (r : Transport) :
    takers (log ++ [(i, ⟨.acquire, r⟩)]) = takers log ++ [i] :=
  List.filterMap_append

theorem takers_append_of_ne {q : Request} (hq : q ≠ .acquire) (r : Reply q) :
    takers (log ++ [(i, ⟨q, r⟩)]) = takers log := by
  have hnone : taker? (i, ⟨q, r⟩) = none := by
    cases q with
    | acquire => exact absurd rfl hq
    | _ => rfl
  rw [takers, List.filterMap_append, List.filterMap_cons, hnone]
  exact List.append_nil _

@[simp] theorem own_append_self (i : Nat) (x : Exchange SessionAccess) :
    own i (log ++ [(i, x)]) = own i log ++ [x] := by
  simp [own]

theorem own_append_of_ne (h : j ≠ i) : own j (log ++ [(i, x)]) = own j log := by
  simp [own, Ne.symm h]

theorem holderAfter_of_keeps {q : Request} (hq : q.keepsTransport = true) (before : Option Nat) :
    holderAfter i before q = before := by
  cases q with
  | acquire => cases hq
  | release t => cases hq
  | _ => rfl

theorem flatMap_own_append {ended : List Nat} (h : i ∉ ended) :
    ended.flatMap (own · (log ++ [(i, x)])) = ended.flatMap (own · log) := by
  refine List.flatMap_congr fun j hj => own_append_of_ne ?_
  rintro rfl
  exact h hj

end

/-! ## Turns -/

section
variable (s₀ : Session) (cs : List Call)

/-- The calls in `ended` were made one after the other, and left the session `s`. -/
structure Served (log : Log) (y : Traffic Call.Outcome) (ended : List Nat) (s : Session) :
    Prop where
  nodup : ended.Nodup
  result : ∀ i ∈ ended, ∃ c r, cs[i]? = some c ∧ y.calls[i]? = some (.done ⟨c, r⟩)
  serves : s₀.Serves (ended.filterMap (performed? y log)) s

/-- It is nobody's turn. -/
structure Idle (log : Log) (y : Traffic Call.Outcome) : Prop where
  served : Served s₀ cs log y (takers log) y.session
  order : log.map Prod.snd = (takers log).flatMap (own · log)

/-- It is the turn of a call `c`, which began on the session `s` after those in `ended`; `p` is left
of it. -/
structure OnTurn (log : Log) (y : Traffic Call.Outcome) (ended : List Nat) (i : Nat) (c : Call)
    (p : Procedure SessionAccess c.Result) (s : Session) : Prop where
  takers_eq : takers log = ended ++ [i]
  notMem : i ∉ ended
  served : Served s₀ cs log y ended s
  order : log.map Prod.snd = ended.flatMap (own · log) ++ own i log
  call : cs[i]? = some c
  left : y.calls[i]? = some (c.inFlight p)
  holding : Holding p
  makes : s.Makes c.procedure (own i log) y.session p

/-- The calls have their turns: those that did not take the transport have not begun, those that
gave it back have ended. -/
structure InTurn (log : Log) (y : Traffic Call.Outcome) : Prop where
  unbegun : ∀ i ∉ takers log, own i log = [] ∧
    y.calls[i]? = cs[i]?.map fun c => c.inFlight c.procedure
  idle : y.holder = none → Idle s₀ cs log y
  busy : ∀ i, y.holder = some i → ∃ ended c p s, OnTurn s₀ cs log y ended i c p s

end

section
variable {s₀ : Session} {cs : List Call} {log : Log} {y : Traffic Call.Outcome}
  {ended : List Nat} {i : Nat}

theorem getElem?_set_of_eq_some {α : Type} {l : List α} {a : α} (h : l[i]? = some a) (b : α) :
    (l.set i b)[i]? = some b := by
  rw [List.getElem?_set_self (List.getElem?_eq_some_iff.1 h).1]

/-- What other calls have done is not changed by an exchange. -/
theorem Served.frame {s : Session} (h : Served s₀ cs log y ended s) (hi : i ∉ ended)
    (x : Exchange SessionAccess) (s' : Session) (holder : Option Nat)
    (p : Procedure SessionAccess Call.Outcome) :
    Served s₀ cs (log ++ [(i, x)]) ⟨s', holder, y.calls.set i p⟩ ended s := by
  have hne : ∀ j ∈ ended, i ≠ j := by
    rintro j hj rfl
    exact hi hj
  have hcalls : ∀ j ∈ ended, (y.calls.set i p)[j]? = y.calls[j]? := fun j hj =>
    List.getElem?_set_ne (hne j hj)
  refine ⟨h.nodup, fun j hj => ?_, ?_⟩
  · rw [hcalls j hj]
    exact h.result j hj
  · have hperformed : ended.filterMap (performed? ⟨s', holder, y.calls.set i p⟩
        (log ++ [(i, x)])) = ended.filterMap (performed? y log) := by
      refine List.filterMap_congr fun j hj => ?_
      simp only [performed?, hcalls j hj, own_append_of_ne (hne j hj).symm]
    rw [hperformed]
    exact h.serves

theorem Idle.acquire (h : Idle s₀ cs log y) {c : Call}
    {k : Transport → Procedure SessionAccess c.Result} {r : Transport} {s : Session}
    (hi : i ∉ takers log) (hown : own i log = []) (hc : cs[i]? = some c)
    (hk : c.procedure = .ask .acquire k) (hhold : ∀ t, Holding (k t))
    (hleft : y.calls[i]? = some (c.inFlight c.procedure)) (ha : y.session.Answers .acquire r s) :
    OnTurn s₀ cs (log ++ [(i, ⟨.acquire, r⟩)]) ⟨s, some i, y.calls.set i (c.inFlight (k r))⟩
      (takers log) i c (k r) y.session where
  takers_eq := takers_append_acquire log i r
  notMem := hi
  served := h.served.frame hi _ _ _ _
  order := by
    rw [flatMap_own_append hi, own_append_self, hown, List.map_append, h.order]
    rfl
  call := hc
  left := getElem?_set_of_eq_some hleft _
  holding := hhold r
  makes := by
    rw [own_append_self, hown, hk]
    exact .ask ha (.nothing _ _)

theorem OnTurn.takers_nodup {c : Call} {p : Procedure SessionAccess c.Result} {s : Session}
    (h : OnTurn s₀ cs log y ended i c p s) : (takers log).Nodup := by
  rw [h.takers_eq, List.nodup_append]
  refine ⟨h.served.nodup, List.nodup_cons.2 ⟨List.not_mem_nil, List.nodup_nil⟩, ?_⟩
  rintro j hj _ hi rfl
  exact h.notMem (List.mem_singleton.1 hi ▸ hj)

section
variable {c : Call} {s s' : Session} {q : Request} {r : Reply q}
  {k : Reply q → Procedure SessionAccess c.Result}
  (h : OnTurn s₀ cs log y ended i c (.ask q k) s) (ha : y.session.Answers q r s')
include h

theorem OnTurn.order_append (x : Exchange SessionAccess) :
    (log ++ [(i, x)]).map Prod.snd =
      ended.flatMap (own · (log ++ [(i, x)])) ++ own i (log ++ [(i, x)]) := by
  rw [flatMap_own_append h.notMem, own_append_self, List.map_append, h.order, List.append_assoc]
  rfl

include ha

theorem OnTurn.makes_append : s.Makes c.procedure (own i (log ++ [(i, ⟨q, r⟩)])) s' (k r) := by
  rw [own_append_self]
  exact Session.makes_append.2 ⟨_, _, h.makes, .ask ha (.nothing _ _)⟩

theorem OnTurn.ask (hq : q ≠ .acquire) (hhold : Holding (k r)) (holder : Option Nat) :
    OnTurn s₀ cs (log ++ [(i, ⟨q, r⟩)]) ⟨s', holder, y.calls.set i (c.inFlight (k r))⟩ ended i c
      (k r) s where
  takers_eq := (takers_append_of_ne hq r).trans h.takers_eq
  notMem := h.notMem
  served := h.served.frame h.notMem _ _ _ _
  order := h.order_append _
  call := h.call
  left := getElem?_set_of_eq_some h.left _
  holding := hhold
  makes := h.makes_append ha

theorem OnTurn.release (hq : q ≠ .acquire) {a : c.Result} (hk : k r = .done a)
    (holder : Option Nat) :
    Idle s₀ cs (log ++ [(i, ⟨q, r⟩)]) ⟨s', holder, y.calls.set i (c.inFlight (k r))⟩ := by
  have htakers : takers (log ++ [(i, ⟨q, r⟩)]) = ended ++ [i] :=
    (takers_append_of_ne hq r).trans h.takers_eq
  have hframe := h.served.frame h.notMem ⟨q, r⟩ s' holder (c.inFlight (k r))
  have hdone : (y.calls.set i (c.inFlight (k r)))[i]? = some (.done ⟨c, a⟩) := by
    rw [getElem?_set_of_eq_some h.left, hk]
    rfl
  have hmakes := hk ▸ h.makes_append ha
  refine ⟨⟨?_, fun j hj => ?_, ?_⟩, ?_⟩
  · rw [takers_append_of_ne hq]
    exact h.takers_nodup
  · rw [htakers] at hj
    rcases List.mem_append.1 hj with hj | hj
    · exact hframe.result j hj
    · obtain rfl := List.mem_singleton.1 hj
      exact ⟨c, a, h.call, hdone⟩
  · rw [htakers, List.filterMap_append]
    have hlast : [i].filterMap (performed? ⟨s', holder, y.calls.set i (c.inFlight (k r))⟩
        (log ++ [(i, ⟨q, r⟩)])) = [⟨c, own i (log ++ [(i, ⟨q, r⟩)]), a⟩] := by
      simp only [List.filterMap_cons, performed?, hdone, List.filterMap_nil]
    rw [hlast]
    exact hframe.serves.call c hmakes
  · rw [htakers, List.flatMap_append, h.order_append]
    simp

end

/-- A call that did not take the transport yet can only be about to do so. -/
theorem InTurn.begins (h : InTurn s₀ cs log y) {q : Request}
    {k : Reply q → Procedure SessionAccess Call.Outcome} (hi : y.calls[i]? = some (.ask q k))
    (hn : i ∉ takers log) :
    ∃ c, ∃ k₀ : Transport → Procedure SessionAccess c.Result, cs[i]? = some c ∧
      c.procedure = .ask .acquire k₀ ∧ (∀ t, Holding (k₀ t)) ∧
      (.ask .acquire fun t => c.inFlight (k₀ t)) = Procedure.ask (S := SessionAccess) q k := by
  have hcall := (h.unbegun i hn).2
  rw [hi] at hcall
  obtain ⟨c, hc, hp⟩ := Option.map_eq_some_iff.1 hcall.symm
  obtain ⟨k₀, hk, hhold⟩ := Session.procedure_begins c
  rw [hk] at hp
  exact ⟨c, k₀, hc, hk, hhold, hp⟩

theorem InTurn.frame (h : InTurn s₀ cs log y) {x : Exchange SessionAccess}
    (hi : i ∈ takers (log ++ [(i, x)])) (p : Procedure SessionAccess Call.Outcome) :
    ∀ j ∉ takers (log ++ [(i, x)]), own j (log ++ [(i, x)]) = [] ∧
      (y.calls.set i p)[j]? = cs[j]?.map fun c => c.inFlight c.procedure := by
  intro j hj
  have hne : j ≠ i := by
    rintro rfl
    exact hj hi
  have hold : j ∉ takers log := by
    intro hm
    refine hj ?_
    rw [takers, List.filterMap_append]
    exact List.mem_append_left _ hm
  rw [own_append_of_ne hne, List.getElem?_set_ne hne.symm]
  exact h.unbegun j hold

/-- Calls keep to their turns when one of them makes its next exchange. -/
theorem InTurn.step (h : InTurn s₀ cs log y) {q : Request} {r : Reply q}
    {k : Reply q → Procedure SessionAccess Call.Outcome} {s' : Session}
    (hi : y.calls[i]? = some (.ask q k)) (hw : y.waits q = false) (ha : y.session.Answers q r s') :
    InTurn s₀ cs (log ++ [(i, ⟨q, r⟩)])
      ⟨s', holderAfter i y.holder q, y.calls.set i (k r)⟩ := by
  have hunfinished : ∀ c r, y.calls[i]? ≠ some (.done ⟨c, r⟩) := by
    intro c r hdone
    rw [hi] at hdone
    cases hdone
  cases hh : y.holder with
  | none =>
    -- every call that took the transport has ended, so this one is about to take it
    have hidle := h.idle hh
    have hn : i ∉ takers log := by
      intro hm
      obtain ⟨c, r, -, hdone⟩ := hidle.served.result i hm
      exact hunfinished c r hdone
    obtain ⟨c, k₀, hc, hk, hhold, heq⟩ := h.begins hi hn
    cases heq
    have hmem : i ∈ takers (log ++ [(i, ⟨.acquire, r⟩)]) := by
      rw [takers_append_acquire]
      exact List.mem_append_right _ (List.mem_singleton_self i)
    refine ⟨h.frame hmem _, nofun, fun j hj => ?_⟩
    obtain rfl := Option.some.inj hj
    exact ⟨_, c, k₀ r, _, hidle.acquire hn (h.unbegun i hn).1 hc hk hhold (hk ▸ hi) ha⟩
  | some j =>
    -- the other calls have ended or have to wait, so this is the one that has the transport
    obtain ⟨ended, c, p, s, ht⟩ := h.busy j hh
    have htaken : i ∈ takers log := by
      by_contra hn
      obtain ⟨c, k₀, -, -, -, heq⟩ := h.begins hi hn
      cases heq
      simp [waits, hh] at hw
    obtain rfl : i = j := by
      rw [ht.takers_eq] at htaken
      rcases List.mem_append.1 htaken with hm | hm
      · obtain ⟨c, r, -, hdone⟩ := ht.served.result i hm
        exact (hunfinished c r hdone).elim
      · exact List.mem_singleton.1 hm
    have hp : c.inFlight p = .ask q k := Option.some.inj (ht.left.symm.trans hi)
    cases ht.holding with
    | @release t k₀ a hk =>
      cases hp
      have hq : (Request.release t) ≠ .acquire := nofun
      have hmem : i ∈ takers (log ++ [(i, ⟨.release t, r⟩)]) := by
        rwa [takers_append_of_ne hq]
      exact ⟨h.frame hmem _, fun _ => ht.release ha hq hk _, nofun⟩
    | @ask q k₀ hq hhold =>
      cases hp
      have hne : q ≠ .acquire := by
        rintro rfl
        cases hq
      have hmem : i ∈ takers (log ++ [(i, ⟨q, r⟩)]) := by
        rwa [takers_append_of_ne hne]
      rw [holderAfter_of_keeps hq]
      refine ⟨h.frame hmem _, nofun, fun j hj => ?_⟩
      obtain rfl := Option.some.inj hj
      exact ⟨ended, c, k₀ r, s, ht.ask ha hne (hhold r) _⟩

theorem inTurn_ofCalls (s₀ : Session) (cs : List Call) : InTurn s₀ cs [] (ofCalls s₀ cs) where
  unbegun _ _ := ⟨rfl, List.getElem?_map⟩
  idle _ := ⟨⟨List.nodup_nil, nofun, .start⟩, rfl⟩
  busy := nofun

theorem Goes.inTurn (h : (ofCalls s₀ cs).Goes log y) : InTurn s₀ cs log y := by
  induction h with
  | start => exact inTurn_ofCalls s₀ cs
  | step _ hi hw ha ih => exact ih.step hi hw ha

/-! ## What follows -/

theorem InTurn.nodup (h : InTurn s₀ cs log y) : (takers log).Nodup := by
  cases hh : y.holder with
  | none => exact (h.idle hh).served.nodup
  | some i =>
    obtain ⟨ended, c, p, s, ht⟩ := h.busy i hh
    exact ht.takers_nodup

theorem InTurn.order (h : InTurn s₀ cs log y) :
    log.map Prod.snd = (takers log).flatMap (own · log) := by
  cases hh : y.holder with
  | none => exact (h.idle hh).order
  | some i =>
    obtain ⟨ended, c, p, s, ht⟩ := h.busy i hh
    rw [ht.order, ht.takers_eq, List.flatMap_append]
    simp

theorem OnTurn.performed_eq {c : Call} {p : Procedure SessionAccess c.Result} {s : Session}
    (h : OnTurn s₀ cs log y ended i c p s) :
    y.performed log = ended.filterMap (performed? y log) := by
  have hnone : performed? y log i = none := by
    simp only [performed?, h.left]
    cases h.holding with
    | release => rfl
    | ask => rfl
  rw [performed, h.takers_eq, List.filterMap_append, List.filterMap_cons, hnone]
  exact List.append_nil _

theorem exists_done_of_isQuiet (h : y.isQuiet = true) {p : Procedure SessionAccess Call.Outcome}
    (hi : y.calls[i]? = some p) : ∃ o, p = .done o := by
  have hp := List.all_eq_true.1 h _ (List.mem_map_of_mem (List.mem_of_getElem? hi))
  cases p with
  | done o => exact ⟨o, rfl⟩
  | ask q k => cases hp

/-- When all calls have ended, all of them had their turn. -/
theorem InTurn.quiet (h : InTurn s₀ cs log y) (hq : y.isQuiet = true) :
    y.holder = none ∧ ∀ i, i ∈ takers log ↔ i < cs.length := by
  have hnone : y.holder = none := by
    cases hh : y.holder with
    | none => rfl
    | some i =>
      obtain ⟨ended, c, p, s, ht⟩ := h.busy i hh
      obtain ⟨o, ho⟩ := exists_done_of_isQuiet hq ht.left
      cases ht.holding with
      | release => cases ho
      | ask => cases ho
  refine ⟨hnone, fun i => ⟨fun hi => ?_, fun hi => ?_⟩⟩
  · obtain ⟨c, r, hc, -⟩ := (h.idle hnone).served.result i hi
    exact (List.getElem?_eq_some_iff.1 hc).1
  · by_contra hn
    have hcall := (h.unbegun i hn).2
    rw [List.getElem?_eq_getElem hi, Option.map_some] at hcall
    obtain ⟨o, ho⟩ := exists_done_of_isQuiet hq hcall
    obtain ⟨k, hk, -⟩ := Session.procedure_begins cs[i]
    rw [hk] at ho
    cases ho

/-- What calls in flight do is what they do one after the other, in the order in which they took the
transport. At any time, the exchanges made so far are those of the calls, put together in that
order; the calls that ended have been made one after the other, with these exchanges and results;
and the session is the one that they left, or that the call whose turn it is has made of it. When
all calls have ended, that is every one of them. Whoever makes calls one after the other with the
same exchanges gets the same results, and ends with the same transport and published state. -/
theorem calls_take_turns (h : (ofCalls s₀ cs).Goes log y) :
    (takers log).Nodup ∧ log.map Prod.snd = (takers log).flatMap (own · log) ∧
    (y.holder = none → s₀.Serves (y.performed log) y.session) ∧
    (∀ i, y.holder = some i → ∃ c p s, cs[i]? = some c ∧ y.calls[i]? = some (c.inFlight p) ∧
      s₀.Serves (y.performed log) s ∧ s.Makes c.procedure (own i log) y.session p) ∧
    (y.isQuiet = true → y.holder = none ∧ (∀ i, i ∈ takers log ↔ i < cs.length) ∧
      (y.performed log).map Performed.call = (takers log).filterMap (cs[·]?) ∧
      ∀ i c, cs[i]? = some c → ∃ r, y.calls[i]? = some (.done ⟨c, r⟩) ∧
        ⟨c, own i log, r⟩ ∈ y.performed log) ∧
    ∀ made u, s₀.Serves made u →
      made.map Performed.course = (y.performed log).map Performed.course →
      made = y.performed log ∧ (y.holder = none → y.session.Agrees u) := by
  have ht := h.inTurn
  refine ⟨ht.nodup, ht.order, fun hh => (ht.idle hh).served.serves, fun i hh => ?_, fun hq => ?_,
    fun made u hs hcourse => ?_⟩
  · obtain ⟨ended, c, p, s, ho⟩ := ht.busy i hh
    exact ⟨c, p, s, ho.call, ho.left, ho.performed_eq ▸ ho.served.serves, ho.makes⟩
  · obtain ⟨hh, htakers⟩ := ht.quiet hq
    have hserved := (ht.idle hh).served
    have hperformed : ∀ i ∈ takers log, ∃ c r, cs[i]? = some c ∧
        y.calls[i]? = some (.done ⟨c, r⟩) ∧ performed? y log i = some ⟨c, own i log, r⟩ := by
      intro i hi
      obtain ⟨c, r, hc, hdone⟩ := hserved.result i hi
      exact ⟨c, r, hc, hdone, by simp only [performed?, hdone]⟩
    refine ⟨hh, htakers, ?_, fun i c hc => ?_⟩
    · rw [performed, List.map_filterMap]
      refine List.filterMap_congr fun i hi => ?_
      obtain ⟨c, r, hc, -, hp⟩ := hperformed i hi
      rw [hp, hc]
      rfl
    · have hi := (htakers i).2 (List.getElem?_eq_some_iff.1 hc).1
      obtain ⟨c', r, hc', hdone, hp⟩ := hperformed i hi
      obtain rfl := Option.some.inj (hc'.symm.trans hc)
      exact ⟨r, hdone, List.mem_filterMap.2 ⟨i, hi, hp⟩⟩
  · cases hh : y.holder with
    | none =>
      obtain ⟨rfl, ha⟩ := hs.unique (ht.idle hh).served.serves hcourse
      exact ⟨rfl, fun _ => ha.symm⟩
    | some i =>
      obtain ⟨ended, c, p, s, ho⟩ := ht.busy i hh
      obtain ⟨rfl, -⟩ := hs.unique (ho.performed_eq ▸ ho.served.serves) hcourse
      exact ⟨rfl, nofun⟩

end

/-! ## Runs of the program -/

section
variable {σ α : Type} (router : (q : Router.Request) → StateM σ (Router.Reply q))

/-- What happens when a call is let make its next request: an exchange, unless the call has to wait
or has ended. -/
def exchange? (i : Nat) (x : Traffic α) (w : σ) : Option (Nat × Exchange SessionAccess) :=
  match x.calls[i]? with
  | some (.ask q _) =>
    if x.waits q then none
    else some (i, ⟨q, (((Session.answer router q).run x.session).run w).1.1⟩)
  | _ => none

/-- What happens when the steps of a schedule are taken. -/
def record : List Nat → Traffic α → σ → Log
  | [], _, _ => []
  | i :: rest, x, w =>
    let y := ((step router i).run x).run w
    (exchange? router i x w).toList ++ record rest y.1.2 y.2

theorem goes_step {x₀ x : Traffic α} {log : Log} (h : x₀.Goes log x)
    (hd : x.session.registry.Distinct) (i : Nat) (w : σ) :
    x₀.Goes (log ++ (exchange? router i x w).toList) (((step router i).run x).run w).1.2 ∧
      (((step router i).run x).run w).1.2.session.registry = x.session.registry := by
  have nothing (he : exchange? router i x w = none)
      (hs : ((step router i).run x).run w = (((), x), w)) :
      x₀.Goes (log ++ (exchange? router i x w).toList) (((step router i).run x).run w).1.2 ∧
        (((step router i).run x).run w).1.2.session.registry = x.session.registry := by
    rw [he, hs]
    simpa using h
  cases hc : x.calls[i]? with
  | none => exact nothing (by simp only [exchange?, hc]) (by simp only [step, StateT.run, hc]; rfl)
  | some p =>
    cases p with
    | done a => exact nothing (by simp only [exchange?, hc]) (by simp only [step, StateT.run, hc]; rfl)
    | ask q k =>
      cases hw : x.waits q with
      | true =>
        exact nothing (by simp only [exchange?, hc, hw, if_true])
          (by simp only [step, StateT.run, hc, hw, if_true]; rfl)
      | false =>
        have he : exchange? router i x w =
            some (i, ⟨q, (((Session.answer router q).run x.session).run w).1.1⟩) := by
          simp [exchange?, hc, hw]
        have hs : (((step router i).run x).run w).1.2 =
            ⟨(((Session.answer router q).run x.session).run w).1.2, holderAfter i x.holder q,
              x.calls.set i (k (((Session.answer router q).run x.session).run w).1.1)⟩ := by
          simp only [step, StateT.run, hc, hw]
          rfl
        rw [he, hs]
        exact ⟨h.step hc hw (Session.answers_answer router q x.session hd w),
          Session.registry_answer router q x.session w⟩

/-- Whatever schedule and router calls in flight are run with, they go some way. -/
theorem goes_run {x₀ x : Traffic α} {log : Log} (h : x₀.Goes log x)
    (hd : x.session.registry.Distinct) (schedule : List Nat) (w : σ) :
    x₀.Goes (log ++ record router schedule x w) (((run router schedule).run x).run w).1.2 := by
  induction schedule generalizing log x w with
  | nil =>
    rw [record, List.append_nil]
    exact h
  | cons i rest ih =>
    obtain ⟨hstep, hregistry⟩ := goes_step router h hd i w
    have hrest := ih hstep (hregistry ▸ hd) (((step router i).run x).run w).2
    rw [List.append_assoc] at hrest
    exact hrest

theorem run_append (l l' : List Nat) (x : Traffic α) (w : σ) :
    ((run router (l ++ l')).run x).run w =
      let y := ((run router l).run x).run w
      ((run router l').run y.1.2).run y.2 := by
  induction l generalizing x w with
  | nil => rfl
  | cons i l ih => exact ih _ _

/-- Making requests in turn until all calls have ended is one of the schedules. -/
theorem exists_rounds_eq_run (fuel : Nat) (x : Traffic α) (w : σ) :
    ∃ schedule, ((rounds router fuel).run x).run w = ((run router schedule).run x).run w := by
  induction fuel generalizing x w with
  | zero => exact ⟨[], rfl⟩
  | succ fuel ih =>
    cases hq : x.isQuiet with
    | true => exact ⟨[], by simp [rounds, run, hq]⟩
    | false =>
      obtain ⟨schedule, hs⟩ := ih (((run router (List.range x.calls.length)).run x).run w).1.2
        (((run router (List.range x.calls.length)).run x).run w).2
      refine ⟨List.range x.calls.length ++ schedule, ?_⟩
      rw [run_append, ← hs]
      simp only [rounds, StateT.run_bind, StateT.run_get, pure_bind, hq, Bool.not_false, if_true]
      rfl

theorem goes_rounds {x₀ x : Traffic α} {log : Log} (h : x₀.Goes log x)
    (hd : x.session.registry.Distinct) (fuel : Nat) (w : σ) :
    ∃ log', x₀.Goes (log ++ log') (((rounds router fuel).run x).run w).1.2 := by
  obtain ⟨schedule, hs⟩ := exists_rounds_eq_run router fuel x w
  rw [hs]
  exact ⟨_, goes_run router h hd schedule w⟩

end

/-- Three calls at a time, which make their requests in turn. -/
def sampleCalls : List Call :=
  [.select "acme" "a", .check, .select "acme" "b"]

/-- Enough steps for all of them, beginning with the last. -/
def sampleSchedule : List Nat :=
  (List.replicate 60 [2, 1, 0]).flatten

theorem calls_take_turns_sample :
    ∃ log y, (ofCalls Session.Sample.session sampleCalls).Goes log y ∧ y.isQuiet = true ∧
      takers log = [2, 1, 0] ∧ Session.Sample.session.Serves (y.performed log) y.session ∧
      (y.performed log).map Performed.call =
        [.select "acme" "b", .check, .select "acme" "a"] ∧
      y.session.published.value.exit = some "a" := by
  have hgoes := goes_run (Session.Sample.router [])
    (.start (x := ofCalls Session.Sample.session sampleCalls)) Session.Sample.distinct
    sampleSchedule ()
  have hquiet : (((run (Session.Sample.router []) sampleSchedule).run
      (ofCalls Session.Sample.session sampleCalls)).run ()).1.2.isQuiet = true := by
    decide +kernel
  obtain ⟨-, -, hserves, -, hquiets, -⟩ := calls_take_turns hgoes
  obtain ⟨hholder, -, hcalls, -⟩ := hquiets hquiet
  have htakers : takers ([] ++ record (Session.Sample.router []) sampleSchedule
      (ofCalls Session.Sample.session sampleCalls) ()) = [2, 1, 0] := by
    decide +kernel
  refine ⟨_, _, hgoes, hquiet, htakers, hserves hholder, ?_, by decide +kernel⟩
  rw [hcalls, htakers]
  rfl

end Traffic

end Egress
