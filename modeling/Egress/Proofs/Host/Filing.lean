import Egress.Host.FileStore.Basic
import Egress.Machine
import Egress.Proofs.Trace
import Mathlib.Logic.Function.Basic

/-!
# Files of a machine

A `Filing` is what there is to know of a machine's files: where paths lead, what stands there, and
where files can be made and removed again. `Filing.Answers` says what may come of a request, done or
refused; when a request is refused is not said, and a file that could not be written, handed over or
given permission bits may be left with any content and any bits. A file stands at a single place;
links between places are left out. A machine is `Lawful` when all its answers are of that kind. One
that in addition refuses whatever it is told to refuse is lawful too (`Lawful.refusing`), so every
request can fail at every time.

The files of a program that installs something differ by a single one from those it started with,
at a place where nothing stood (`Filing.Spare`).
-/

set_option autoImplicit false

namespace Egress.Machine

open Handler

/-- Where paths lead on a machine, and what stands there. -/
structure Filing (Place : Type) where
  place? : String → Option Place
  stands? : Place → Option Host.Entry
  /-- Files can be made at the place, and removed from it. -/
  Changeable : Place → Prop

namespace Filing

variable {Place : Type} [DecidableEq Place] {v v' : Filing Place} {path : String} {l : Place}
  {bytes : List UInt8} {mode : Nat}

/-- With another entry at a place, or without one. -/
def put (v : Filing Place) (l : Place) (e : Option Host.Entry) : Filing Place :=
  { v with stands? := Function.update v.stands? l e }

/-- Of a file that a path leads to, the content and the permission bits change, and nothing else. -/
def Alters (v : Filing Place) (path : String) (f : List UInt8 → Nat → Host.Entry)
    (v' : Filing Place) : Prop :=
  ∀ l bytes mode, v.place? path = some l → v.stands? l = some (.file bytes mode) →
    v' = v.put l (some (f bytes mode))

/-- Of a file that a path leads to, content and permission bits may be anything afterwards. -/
def Spoils (v : Filing Place) (path : String) (v' : Filing Place) : Prop :=
  ∀ l bytes mode, v.place? path = some l → v.stands? l = some (.file bytes mode) →
    ∃ bytes' mode', v' = v.put l (some (.file bytes' mode'))

/-- A path leads to a file with this text. -/
def Holds (v : Filing Place) (path text : String) : Prop :=
  ∃ l bytes mode, v.place? path = some l ∧ v.stands? l = some (.file bytes mode) ∧
    Text.decode? bytes = some text

/-- What may come of a request (module doc). -/
def Answers (v : Filing Place) : (q : Request) → Reply q → Filing Place → Prop
  | .readText path, .ok text, v' => v.Holds path text ∧ v' = v
  | .readText _, .error _, v' => v' = v
  | .create _, .ok path, v' => ∃ l, v.place? path = some l ∧ v.stands? l = none ∧ v.Changeable l ∧
      v' = v.put l (some (.file [] 0o600))
  | .create _, .error _, v' => v' = v
  | .append path content, .ok (), v' =>
      v.Alters path (fun bytes mode => .file (bytes ++ Text.encode content) mode) v'
  | .append path _, .error _, v' => v.Spoils path v'
  | .flush path, .ok (), v' => v.Alters path .file v'
  | .flush path, .error _, v' => v.Spoils path v'
  | .setMode path mode, .ok (), v' => v.Alters path (fun bytes _ => .file bytes (mode % 0o10000)) v'
  | .setMode path _, .error _, v' => v.Spoils path v'
  | .rename source destination, .ok (), v' =>
      ∀ l bytes mode, v.place? source = some l → v.stands? l = some (.file bytes mode) →
        ∃ target, v.place? destination = some target ∧
          v' = (v.put l none).put target (some (.file bytes mode))
  | .rename .., .error _, v' => v' = v
  | .remove path, _, v' => ∀ l, v.place? path = some l →
      (v.stands? l = none → v' = v) ∧
      ∀ bytes mode, v.stands? l = some (.file bytes mode) → v.Changeable l → v' = v.put l none
  | .note _, _, v' => v' = v
  | _, _, _ => True

theorem put_stands?_self (v : Filing Place) (l : Place) (e : Option Host.Entry) :
    (v.put l e).stands? l = e :=
  Function.update_self ..

theorem put_stands?_of_ne (v : Filing Place) {l k : Place} (h : k ≠ l) (e : Option Host.Entry) :
    (v.put l e).stands? k = v.stands? k :=
  Function.update_of_ne h ..

theorem put_put (v : Filing Place) (l : Place) (e e' : Option Host.Entry) :
    (v.put l e).put l e' = v.put l e' := by
  simp only [put, Function.update_idem]

theorem put_stands? (v : Filing Place) (l : Place) : v.put l (v.stands? l) = v := by
  simp only [put, Function.update_eq_self]

/-- A path leads to where nothing stands and a file can be made. -/
structure Spare (v : Filing Place) (path : String) (l : Place) : Prop where
  located : v.place? path = some l
  vacant : v.stands? l = none
  changeable : v.Changeable l

/-! ## One file more -/

section
variable (h : v.Spare path l)
include h

theorem Spare.put_none : v.put l none = v := by
  rw [← h.vacant, put_stands?]

theorem Spare.of_alters {f : List UInt8 → Nat → Host.Entry}
    (ha : (v.put l (some (.file bytes mode))).Alters path f v') :
    v' = v.put l (some (f bytes mode)) := by
  rw [ha l bytes mode h.located (put_stands?_self ..), put_put]

theorem Spare.of_spoils (hs : (v.put l (some (.file bytes mode))).Spoils path v') :
    ∃ bytes' mode', v' = v.put l (some (.file bytes' mode')) := by
  obtain ⟨bytes', mode', hv⟩ := hs l bytes mode h.located (put_stands?_self ..)
  exact ⟨bytes', mode', by rw [hv, put_put]⟩

/-- Removed again, the file leaves no trace. -/
theorem Spare.of_remove {r : Reply (.remove path)}
    (hr : (v.put l (some (.file bytes mode))).Answers (.remove path) r v') : v' = v := by
  have hv := (hr l h.located).2 bytes mode (put_stands?_self ..) h.changeable
  rw [hv, put_put, h.put_none]

/-- The file takes the place of another one. -/
theorem Spare.of_rename {destination : String}
    (hr : (v.put l (some (.file bytes mode))).Answers (.rename path destination) (.ok ()) v') :
    ∃ target, v.place? destination = some target ∧
      v' = v.put target (some (.file bytes mode)) := by
  obtain ⟨target, htarget, hv⟩ := hr l bytes mode h.located (put_stands?_self ..)
  exact ⟨target, htarget, by rw [hv, put_put, h.put_none]⟩

/-- At the place it was taken from, nothing is left to remove. -/
theorem Spare.of_remove_moved {target : Place} {e : Option Host.Entry} (hne : l ≠ target)
    {r : Reply (.remove path)} (hr : (v.put target e).Answers (.remove path) r v') :
    v' = v.put target e := by
  refine (hr l h.located).1 ?_
  rw [put_stands?_of_ne v hne, h.vacant]

end

/-- A path leads to a file, and everything else is as before. -/
def Placed (v v' : Filing Place) (path : String) (bytes : List UInt8) (mode : Nat) : Prop :=
  ∃ target, v.place? path = some target ∧ v' = v.put target (some (.file bytes mode))

end Filing

/-! ## Machines that answer so -/

section
variable {ω Place : Type} [DecidableEq Place] (answer : (q : Request) → StateM ω (Reply q))
  (filing : ω → Filing Place)

/-- All answers are what may come of their requests. -/
def Lawful : Prop :=
  ∀ w q, (filing w).Answers q (reply answer q w) (filing (after answer [q] w))

/-- The reply that refuses a request, if it is one that can be refused. -/
def refusal? : (q : Request) → Fault → Option (Reply q)
  | .readText _, fault => some (.error fault)
  | .create _, fault => some (.error fault)
  | .append .., fault => some (.error fault)
  | .flush _, fault => some (.error fault)
  | .setMode .., fault => some (.error fault)
  | .rename .., fault => some (.error fault)
  | _, _ => none

/-- A machine that is told, request by request, which ones to refuse for which faults. -/
def refusing (q : Request) : StateM (ω × List (Option Fault)) (Reply q) := fun (w, faults) =>
  match (faults.head?.bind id).bind (refusal? q) with
  | some r => (r, w, faults.tail)
  | none => (reply answer q w, after answer [q] w, faults.tail)

variable {answer filing}

/-- A refused request that changes nothing is answered as it may be. -/
theorem Filing.answers_of_refusal? (v : Filing Place) {q : Request} {fault : Fault} {r : Reply q}
    (h : refusal? q fault = some r) : v.Answers q r v := by
  have hspoils (path : String) : v.Spoils path v := fun l bytes mode _ hl =>
    ⟨bytes, mode, by rw [← hl, Filing.put_stands?]⟩
  cases q <;> cases h
  case readText => rfl
  case create => rfl
  case append => exact hspoils _
  case flush => exact hspoils _
  case setMode => exact hspoils _
  case rename => rfl

theorem Lawful.answers (h : Lawful answer filing) {q : Request} {r : Reply q} {w : ω}
    (hr : reply answer q w = r) : (filing w).Answers q r (filing (after answer [q] w)) :=
  hr ▸ h w q

/-- Reading changes nothing. -/
theorem Lawful.files_read (h : Lawful answer filing) (path : String) (w : ω) :
    filing (after answer [.readText path] w) = filing w := by
  have hread := h w (.readText path)
  cases hr : reply answer (.readText path) w with
  | error fault =>
    rw [hr] at hread
    exact hread
  | ok text =>
    rw [hr] at hread
    exact hread.2

variable (filing) in
/-- It is enough to look at what a request comes to. -/
theorem answers_of_run {q : Request} {r : Reply q} {w w' : ω} (hrun : (answer q).run w = (r, w'))
    (h : (filing w).Answers q r (filing w')) :
    (filing w).Answers q (reply answer q w) (filing (after answer [q] w)) := by
  simpa only [reply, after, hrun] using h

theorem Lawful.refusing (h : Lawful answer filing) :
    Lawful (refusing answer) (fun w => filing w.1) := by
  rintro ⟨w, faults⟩ q
  cases hr : (faults.head?.bind id).bind (refusal? q) with
  | none =>
    have hrun : (Machine.refusing answer q).run (w, faults)
        = (reply answer q w, after answer [q] w, faults.tail) := by
      simp only [Machine.refusing, StateT.run, hr]
    exact answers_of_run (fun w => filing w.1) hrun (h w q)
  | some r =>
    have hrun : (Machine.refusing answer q).run (w, faults) = (r, w, faults.tail) := by
      simp only [Machine.refusing, StateT.run, hr]
    obtain ⟨fault, -, hrefusal⟩ := Option.bind_eq_some_iff.1 hr
    exact answers_of_run (fun w => filing w.1) hrun (Filing.answers_of_refusal? (filing w) hrefusal)

end

end Egress.Machine
