/-!
# Procedures

A procedure is a program as data: it is done with a result, or it makes a request and goes on with
the reply. What requests there are, and what replies each can get, is an `Interface`. `run` carries
a procedure out with a handler that answers the requests in any monad, so one and the same procedure
can be run against a script, a machine in memory or the real one, and be interrupted between any two
of its requests. Running is compatible with sequencing (`run_bind`).
-/

set_option autoImplicit false

namespace Egress

/-- Requests and the replies each of them can get. -/
structure Interface where
  Request : Type
  Reply : Request → Type

/-- A program that makes requests and ends with a result. -/
inductive Procedure (S : Interface) (α : Type) where
  | done (a : α)
  | ask (q : S.Request) (k : S.Reply q → Procedure S α)

namespace Procedure

variable {S : Interface} {α β γ : Type}

/-- Goes on with another procedure. -/
def bind (p : Procedure S α) (f : α → Procedure S β) : Procedure S β :=
  match p with
  | done a => f a
  | ask q k => ask q fun r => bind (k r) f

instance : Monad (Procedure S) where
  pure := done
  bind := bind

/-- The result, when nothing is left to do. -/
def result? : Procedure S α → Option α
  | done a => some a
  | ask .. => none

/-- A single request. -/
def perform (q : S.Request) : Procedure S (S.Reply q) :=
  ask q done

@[simp] theorem pure_eq (a : α) : (pure a : Procedure S α) = done a := rfl

@[simp] theorem done_bind (a : α) (f : α → Procedure S β) : done a >>= f = f a := rfl

@[simp] theorem ask_bind (q : S.Request) (k : S.Reply q → Procedure S α) (f : α → Procedure S β) :
    ask q k >>= f = ask q fun r => k r >>= f := rfl

theorem bind_done (p : Procedure S α) : p >>= done = p := by
  induction p with
  | done a => rfl
  | ask q k ih => simp only [ask_bind, ih]

theorem bind_bind (p : Procedure S α) (f : α → Procedure S β) (g : β → Procedure S γ) :
    p >>= f >>= g = p >>= fun a => f a >>= g := by
  induction p with
  | done a => rfl
  | ask q k ih => simp only [ask_bind, ih]

instance : LawfulMonad (Procedure S) := LawfulMonad.mk' _
  (fun p => bind_done p)
  (fun _ _ => rfl)
  bind_bind

variable {m : Type → Type} [Monad m]

/-- Carries a procedure out with answers from a handler. -/
def run (handle : (q : S.Request) → m (S.Reply q)) : Procedure S α → m α
  | done a => pure a
  | ask q k => handle q >>= fun r => run handle (k r)

@[simp] theorem run_done (handle : (q : S.Request) → m (S.Reply q)) (a : α) :
    run handle (done a) = pure a := rfl

@[simp] theorem run_ask (handle : (q : S.Request) → m (S.Reply q)) (q : S.Request)
    (k : S.Reply q → Procedure S α) :
    run handle (ask q k) = handle q >>= fun r => run handle (k r) := rfl

theorem run_bind [LawfulMonad m] (handle : (q : S.Request) → m (S.Reply q)) (p : Procedure S α)
    (f : α → Procedure S β) :
    run handle (p >>= f) = run handle p >>= fun a => run handle (f a) := by
  induction p with
  | done a => simp
  | ask q k ih => simp [ih]

end Procedure

end Egress
