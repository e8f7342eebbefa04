import Egress.Router.Session

/-!
# Calls in flight

Several calls on one session at the same time. Each is a procedure of which a part is still to be
done; a step lets one of them make its next request (`Traffic.step`), in any order between calls.
The only rule is that a call that asks for the transport waits while another has it. `Traffic.run`
takes the steps of a schedule and `Traffic.rounds` those of all calls in turn.
-/

set_option autoImplicit false

namespace Egress

/-- Calls in flight on one session. -/
structure Traffic (α : Type) where
  session : Session
  /-- The call that has the transport. -/
  holder : Option Nat := none
  /-- What each call has still to do. -/
  calls : List (Procedure SessionAccess α)

namespace Traffic

variable {α : Type} {m : Type → Type} [Monad m]

/-- Whether a request has to wait. -/
def waits (x : Traffic α) : SessionAccess.Request → Bool
  | .acquire => x.holder.isSome
  | _ => false

/-- Who has the transport after a call's request. -/
def holderAfter (i : Nat) (before : Option Nat) : SessionAccess.Request → Option Nat
  | .acquire => some i
  | .release _ => none
  | _ => before

/-- The results of the calls, none for those that have not ended. -/
def results (x : Traffic α) : List (Option α) :=
  x.calls.map Procedure.result?

/-- Whether all calls have ended. -/
def isQuiet (x : Traffic α) : Bool :=
  x.results.all Option.isSome

/-- Lets a call make its next request, unless it has to wait or has ended. -/
def step (router : (q : Router.Request) → m (Router.Reply q)) (i : Nat) :
    StateT (Traffic α) m Unit := fun x =>
  match x.calls[i]? with
  | some (.ask q k) =>
    if x.waits q then pure ((), x)
    else do
      let (reply, session) ← (Session.answer router q).run x.session
      pure ((), ⟨session, holderAfter i x.holder q, x.calls.set i (k reply)⟩)
  | _ => pure ((), x)

/-- Takes the steps of a schedule. -/
def run (router : (q : Router.Request) → m (Router.Reply q)) :
    List Nat → StateT (Traffic α) m Unit
  | [] => pure ()
  | i :: rest => do
    step router i
    run router rest

/-- Lets each call in turn make a request, over and over until all have ended; at most `fuel`
times. -/
def rounds (router : (q : Router.Request) → m (Router.Reply q)) :
    Nat → StateT (Traffic α) m Unit
  | 0 => pure ()
  | fuel + 1 => do
    let x ← get
    if !x.isQuiet then
      run router (List.range x.calls.length)
      rounds router fuel

end Traffic

end Egress
