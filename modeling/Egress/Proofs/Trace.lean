import Egress.Procedure

/-!
# Traces of procedures

`p.Ends l a`: the procedure `p` makes the requests in `l` one after the other, gets the replies
that stand beside them, and ends with `a`. Nothing is assumed of the replies. Traces are put
together along sequencing (`ends_bind`). `latest` picks the last of the elements that count from
what happened so far. `Handler.reply` and `Handler.after` say what a handler with a state replies
when it is asked one request after the other, `Handler.carry` what it makes of a procedure.
-/

set_option autoImplicit false

namespace Egress

/-! ## What happened last -/

section
variable {α : Type} {p : α → Bool} {l l' : List α} {a : α}

/-- The last element that counts. -/
def latest (p : α → Bool) (l : List α) : Option α :=
  (l.filter p).getLast?

theorem latest_append : latest p (l ++ l') = (latest p l').or (latest p l) := by
  unfold latest
  rw [List.filter_append, List.getLast?_append]

theorem latest_of_pos (h : p a = true) : latest p (l ++ [a]) = some a := by
  simp [latest, h]

theorem latest_eq_none_iff : latest p l = none ↔ ∀ a ∈ l, p a = false := by
  simp [latest]

theorem mem_of_latest (h : latest p l = some a) : a ∈ l :=
  (List.mem_filter.1 (List.mem_of_getLast? h)).1

theorem latest_append_of_neg (h : ∀ a ∈ l', p a = false) : latest p (l ++ l') = latest p l := by
  rw [latest_append, latest_eq_none_iff.2 h, Option.none_or]

end

/-! ## Asking a handler -/

namespace Handler

section
variable {Q σ : Type} {R : Q → Type} (handle : (q : Q) → StateM σ (R q))

/-- The reply to a request. -/
def reply (q : Q) (w : σ) : R q :=
  ((handle q).run w).1

/-- The state after some requests, one after the other. -/
def after : List Q → σ → σ
  | [], w => w
  | q :: qs, w => after qs ((handle q).run w).2

end

section
variable {S : Interface} {σ α β : Type} (handle : (q : S.Request) → StateM σ (S.Reply q))

/-- The result of a procedure, and the state afterwards. -/
def carry (p : Procedure S α) (w : σ) : α × σ :=
  (p.run handle).run w

theorem carry_pure (a : α) (w : σ) : carry handle (pure a) w = (a, w) := rfl

theorem carry_perform_bind (q : S.Request) (f : S.Reply q → Procedure S α) (w : σ) :
    carry handle (.perform q >>= f) w = carry handle (f (reply handle q w)) (after handle [q] w) :=
  rfl

theorem carry_bind (p : Procedure S α) (f : α → Procedure S β) (w : σ) :
    carry handle (p >>= f) w = carry handle (f (carry handle p w).1) (carry handle p w).2 := by
  rw [carry, Procedure.run_bind]
  rfl

end

end Handler

/-! ## Traces -/

/-- A request and the reply it got. -/
structure Exchange (S : Interface) where
  request : S.Request
  reply : S.Reply request

namespace Procedure

variable {S : Interface} {α β : Type}

/-- The procedure makes some exchanges and ends with a result (module doc). -/
inductive Ends : Procedure S α → List (Exchange S) → α → Prop
  | done (a : α) : Ends (.done a) [] a
  | ask {q : S.Request} {k : S.Reply q → Procedure S α} {l : List (Exchange S)} {a : α}
      (r : S.Reply q) : Ends (k r) l a → Ends (.ask q k) (⟨q, r⟩ :: l) a

@[simp] theorem ends_done {a b : α} {l : List (Exchange S)} :
    (done a : Procedure S α).Ends l b ↔ l = [] ∧ b = a := by
  constructor
  · intro h
    cases h
    exact ⟨rfl, rfl⟩
  · rintro ⟨rfl, rfl⟩
    exact .done b

@[simp] theorem ends_ask {q : S.Request} {k : S.Reply q → Procedure S α} {b : α}
    {l : List (Exchange S)} :
    (ask q k).Ends l b ↔ ∃ r l', l = ⟨q, r⟩ :: l' ∧ (k r).Ends l' b := by
  constructor
  · intro h
    cases h with
    | ask r h => exact ⟨r, _, rfl, h⟩
  · rintro ⟨r, l', rfl, h⟩
    exact .ask r h

theorem ends_bind {p : Procedure S α} {f : α → Procedure S β} {l : List (Exchange S)} {b : β} :
    (p >>= f).Ends l b ↔ ∃ l₁ a l₂, l = l₁ ++ l₂ ∧ p.Ends l₁ a ∧ (f a).Ends l₂ b := by
  induction p generalizing l with
  | done a =>
    rw [done_bind]
    constructor
    · intro h
      exact ⟨[], a, l, rfl, .done a, h⟩
    · rintro ⟨l₁, a', l₂, rfl, h₁, h₂⟩
      obtain ⟨rfl, rfl⟩ := ends_done.1 h₁
      exact h₂
  | ask q k ih =>
    rw [ask_bind, ends_ask]
    constructor
    · rintro ⟨r, l', rfl, h⟩
      obtain ⟨l₁, a, l₂, rfl, h₁, h₂⟩ := (ih r).1 h
      exact ⟨⟨q, r⟩ :: l₁, a, l₂, rfl, .ask r h₁, h₂⟩
    · rintro ⟨l₁, a, l₂, rfl, h₁, h₂⟩
      obtain ⟨r, l', rfl, h⟩ := ends_ask.1 h₁
      exact ⟨r, l' ++ l₂, rfl, (ih r).2 ⟨l', a, l₂, rfl, h, h₂⟩⟩

theorem ends_perform_bind {q : S.Request} {f : S.Reply q → Procedure S β}
    {l : List (Exchange S)} {b : β} :
    (perform q >>= f).Ends l b ↔ ∃ r l', l = ⟨q, r⟩ :: l' ∧ (f r).Ends l' b :=
  ends_ask

end Procedure

end Egress
