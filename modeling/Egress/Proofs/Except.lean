/-!
# Steps that can fail

Outcomes can be compared. How an outcome is taken apart into the steps it came from, and what a fold
of such steps keeps.
-/

set_option autoImplicit false

namespace Egress

instance instDecidableEqExcept {ε α : Type} [DecidableEq ε] [DecidableEq α] :
    DecidableEq (Except ε α)
  | .ok a, .ok b => decidable_of_iff (a = b) ⟨congrArg Except.ok, Except.ok.inj⟩
  | .error e, .error f => decidable_of_iff (e = f) ⟨congrArg Except.error, Except.error.inj⟩
  | .ok _, .error _ => isFalse nofun
  | .error _, .ok _ => isFalse nofun

theorem map_eq_error {ε α β : Type} {x : Except ε α} {f : α → β} {e : ε} :
    x.map f = .error e ↔ x = .error e := by
  cases x <;> simp [Except.map]

theorem map_eq_ok {ε α β : Type} {x : Except ε α} {f : α → β} {b : β} :
    x.map f = .ok b ↔ ∃ a, x = .ok a ∧ f a = b := by
  cases x <;> simp [Except.map]

theorem map_map_cancel {ε α β : Type} {x : Except ε α} {f : α → β} {g : β → α}
    (h : ∀ a, g (f a) = a) : (x.map f).map g = x := by
  cases x <;> simp [Except.map, h]

theorem map_map {ε α β γ : Type} (x : Except ε α) (f : α → β) (g : β → γ) :
    (x.map f).map g = x.map fun a => g (f a) := by
  cases x <;> rfl

theorem bind_eq_ok {ε α β : Type} {x : Except ε α} {f : α → Except ε β} {b : β} :
    x >>= f = .ok b ↔ ∃ a, x = .ok a ∧ f a = .ok b := by
  cases x <;> simp [bind, Except.bind]

/-- What every step of a fold keeps, the fold keeps. -/
theorem foldlM_keeps {ε α σ : Type} {P : σ → Prop} {f : σ → α → Except ε σ} {l : List α}
    {s s' : σ} (hs : P s) (hf : ∀ a ∈ l, ∀ s s', P s → f s a = .ok s' → P s')
    (h : l.foldlM f s = .ok s') : P s' := by
  induction l generalizing s with
  | nil =>
    obtain rfl := Except.ok.inj h
    exact hs
  | cons a l ih =>
    rw [List.foldlM_cons, bind_eq_ok] at h
    obtain ⟨s₁, h₁, h⟩ := h
    exact ih (hf a List.mem_cons_self _ _ hs h₁) (fun b hb => hf b (List.mem_cons_of_mem _ hb)) h

/-- A fold fails at the first of its steps that fails. -/
theorem foldlM_eq_error {ε α σ : Type} {f : σ → α → Except ε σ} {l : List α} {s : σ} {e : ε}
    (h : l.foldlM f s = .error e) : ∃ before a after s', l = before ++ a :: after ∧
      before.foldlM f s = .ok s' ∧ f s' a = .error e := by
  induction l generalizing s with
  | nil => cases h
  | cons a l ih =>
    rw [List.foldlM_cons] at h
    cases hs : f s a with
    | error e' =>
      rw [hs] at h
      obtain rfl := Except.error.inj h
      exact ⟨[], a, l, s, rfl, rfl, hs⟩
    | ok s₁ =>
      rw [hs] at h
      obtain ⟨before, b, after, s', rfl, hbefore, hb⟩ := ih h
      refine ⟨a :: before, b, after, s', rfl, ?_, hb⟩
      rw [List.foldlM_cons, hs]
      exact hbefore

/-- A fold fails at one of its steps. -/
theorem foldlM_error {ε α σ : Type} {f : σ → α → Except ε σ} {l : List α} {s : σ} {e : ε}
    (h : l.foldlM f s = .error e) : ∃ a ∈ l, ∃ s', f s' a = .error e := by
  obtain ⟨before, a, after, s', rfl, -, ha⟩ := foldlM_eq_error h
  exact ⟨a, by simp, s', ha⟩

end Egress
