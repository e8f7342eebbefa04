import Egress.Host.Basic
import Egress.Proofs.Trace

/-!
# Running on a machine in memory

What requests do to a machine in memory, and procedures one after the other.
-/

set_option autoImplicit false

namespace Egress.Host

theorem answer_create (dir : String) (h : Host) :
    answer (.create dir) h = match h.files.createIn dir with
      | .ok (files, path) => (.ok path, { h with files })
      | .error fault => (.error fault, h) := by
  simp only [answer, bind, StateT.bind, get, getThe, MonadStateOf.get, StateT.get, pure]
  cases h.files.createIn dir <;> rfl

theorem change_eq (f : FileStore → Except Fault FileStore) (h : Host) :
    answer.change f h = match f h.files with
      | .ok files => (.ok (), { h with files })
      | .error fault => (.error fault, h) := by
  simp only [answer.change, bind, StateT.bind, get, getThe, MonadStateOf.get, StateT.get, pure]
  cases f h.files <;> rfl

theorem run_bind {α β : Type} (p : Procedure Machine α) (f : α → Procedure Machine β) (h : Host) :
    run (p >>= f) h = run (f (run p h).1) (run p h).2 :=
  Handler.carry_bind (S := Machine) answer p f h

end Egress.Host
