import Egress.Text.Search

/-!
# Marks that stand twice in a row

`Doubled mark cs`: the character stands twice in a row somewhere. `cutAt` cuts a text at the first
such place, if there is one (`cutAt_eq_none_iff`, `cutAt_append`, `eq_append_of_cutAt`).
-/

set_option autoImplicit false

namespace Egress.Text

/-- A character stands twice in a row. -/
def Doubled (mark : Char) (cs : List Char) : Prop :=
  [mark, mark] <:+: cs

instance (mark : Char) (cs : List Char) : Decidable (Doubled mark cs) :=
  decidable_of_iff (occursIn [mark, mark] cs = true) occursIn_iff

section
variable {mark : Char} {cs : List Char}

theorem not_doubled_nil : ¬ Doubled mark [] := by
  intro h
  cases List.infix_nil.1 h

theorem doubled_cons_iff {c : Char} :
    Doubled mark (c :: cs) ↔ (c = mark ∧ cs.head? = some mark) ∨ Doubled mark cs := by
  unfold Doubled
  rw [List.infix_cons_iff, List.cons_prefix_cons, eq_comm (a := mark)]
  cases cs with
  | nil => simp
  | cons d cs => simp [List.cons_prefix_cons, eq_comm (a := mark)]

/-- Two texts put together have the doubled mark in one of them or where they meet. -/
theorem doubled_append_iff {ds : List Char} :
    Doubled mark (cs ++ ds) ↔ Doubled mark cs ∨ Doubled mark ds ∨
      (cs.getLast? = some mark ∧ ds.head? = some mark) := by
  induction cs with
  | nil => simp [not_doubled_nil]
  | cons c cs ih =>
    rw [List.cons_append, doubled_cons_iff, doubled_cons_iff, ih]
    cases cs with
    | nil => simp [not_doubled_nil, or_comm]
    | cons d cs =>
      rw [List.getLast?_cons_cons, List.cons_append, List.head?_cons, List.head?_cons, or_assoc]

/-- With a mark put behind it, a text has the mark doubled if it had before or ended in it. -/
theorem doubled_append_mark_iff :
    Doubled mark (cs ++ [mark]) ↔ Doubled mark cs ∨ cs.getLast? = some mark := by
  rw [doubled_append_iff, doubled_cons_iff]
  simp [not_doubled_nil]

theorem not_doubled_of_not_mem (h : mark ∉ cs) : ¬ Doubled mark (cs ++ [mark]) := by
  rw [doubled_append_mark_iff]
  rintro (hd | hl)
  · exact h (hd.subset List.mem_cons_self)
  · exact h (List.mem_of_getLast? hl)

end

/-! ## Cutting at the first doubled mark -/

/-- The text before the first two marks in a row and the text after them. -/
def cutAt (mark : Char) : List Char → Option (List Char × List Char)
  | [] => none
  | [_] => none
  | a :: b :: rest =>
    if a = mark ∧ b = mark then some ([], rest)
    else (cutAt mark (b :: rest)).map fun (before, after) => (a :: before, after)

section
variable {mark : Char} {cs before after : List Char}

theorem cutAt_length (h : cutAt mark cs = some (before, after)) :
    before.length + after.length + 2 = cs.length := by
  induction cs generalizing before after with
  | nil => simp [cutAt] at h
  | cons a rest ih =>
    cases rest with
    | nil => simp [cutAt] at h
    | cons b rest =>
      simp only [cutAt] at h
      split at h
      · simp only [Option.some.injEq, Prod.mk.injEq] at h
        obtain ⟨rfl, rfl⟩ := h
        simp
      · obtain ⟨⟨x, y⟩, hxy, he⟩ := Option.map_eq_some_iff.1 h
        simp only [Prod.mk.injEq] at he
        obtain ⟨rfl, rfl⟩ := he
        have := ih hxy
        simp at this ⊢
        omega

theorem cutAt_cons (c : Char) (cs : List Char) :
    cutAt mark (c :: cs) = if c = mark ∧ cs.head? = some mark then some ([], cs.tail)
      else (cutAt mark cs).map fun (before, after) => (c :: before, after) := by
  cases cs with
  | nil => simp [cutAt]
  | cons d cs => simp [cutAt]

theorem cutAt_eq_none_iff : cutAt mark cs = none ↔ ¬ Doubled mark cs := by
  induction cs with
  | nil => simp [cutAt, not_doubled_nil]
  | cons c cs ih =>
    rw [cutAt_cons, doubled_cons_iff]
    split
    · rename_i hc
      simp [hc]
    · rename_i hc
      simp [hc, ih]

theorem cutAt_append (h : ¬ Doubled mark (before ++ [mark])) (after : List Char) :
    cutAt mark (before ++ mark :: mark :: after) = some (before, after) := by
  induction before with
  | nil => simp [cutAt_cons]
  | cons c before ih =>
    rw [List.cons_append, doubled_cons_iff, not_or] at h
    obtain ⟨hc, hbefore⟩ := h
    have hhead : (before ++ mark :: mark :: after).head? = (before ++ [mark]).head? := by
      cases before <;> rfl
    rw [List.cons_append, cutAt_cons, hhead, if_neg hc, ih hbefore]
    rfl

theorem eq_append_of_cutAt (h : cutAt mark cs = some (before, after)) :
    cs = before ++ mark :: mark :: after ∧ ¬ Doubled mark (before ++ [mark]) := by
  induction cs generalizing before with
  | nil => cases h
  | cons c cs ih =>
    rw [cutAt_cons] at h
    split at h
    · rename_i hc
      obtain ⟨rfl, hhead⟩ := hc
      obtain ⟨rfl, rfl⟩ := Prod.mk.inj (Option.some.inj h)
      obtain ⟨cs, rfl⟩ := List.head?_eq_some_iff.1 hhead
      refine ⟨rfl, ?_⟩
      simp [doubled_cons_iff, not_doubled_nil]
    · rename_i hc
      obtain ⟨⟨before, after⟩, hcut, he⟩ := Option.map_eq_some_iff.1 h
      obtain ⟨rfl, rfl⟩ := Prod.mk.inj he
      obtain ⟨rfl, hbefore⟩ := ih hcut
      have hhead : (before ++ mark :: mark :: after).head? = (before ++ [mark]).head? := by
        cases before <;> rfl
      rw [hhead] at hc
      refine ⟨rfl, ?_⟩
      rw [List.cons_append, doubled_cons_iff, not_or]
      exact ⟨hc, hbefore⟩

end

end Egress.Text
