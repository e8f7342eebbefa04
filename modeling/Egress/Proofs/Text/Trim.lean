import Egress.Text.Blank

/-!
# Trimming

Blanks put around a text are trimmed away again (`trim_append`), and a text without blanks at its
ends is left as it is (`trim_of_bare`).
-/

set_option autoImplicit false

namespace Egress.Text

/-- Blank characters only. -/
def Blank (cs : List Char) : Prop :=
  ∀ c ∈ cs, isBlank c = true

/-- No blank at either end. -/
def Bare (cs : List Char) : Prop :=
  (∀ c ∈ cs.head?, isBlank c = false) ∧ ∀ c ∈ cs.getLast?, isBlank c = false

instance (cs : List Char) : Decidable (Blank cs) :=
  List.decidableBAll (isBlank · = true) cs

instance (cs : List Char) : Decidable (Bare cs) :=
  decidable_of_iff (cs.head?.all (!isBlank ·) = true ∧ cs.getLast?.all (!isBlank ·) = true)
    (by simp [Bare, Option.all_eq_true])

section
variable {lead cs tail : List Char}

theorem trimStart_of_blank (h : Blank cs) : trimStart cs = [] := by
  have happend : (cs ++ []).dropWhile isBlank = _ := List.dropWhile_append_of_pos h
  rwa [List.append_nil] at happend

theorem trimStart_append_of_blank (h : Blank lead) : trimStart (lead ++ cs) = trimStart cs :=
  List.dropWhile_append_of_pos h

theorem trimEnd_append_of_blank (h : Blank tail) : trimEnd (cs ++ tail) = trimEnd cs := by
  have hreverse : ∀ c ∈ tail.reverse, isBlank c = true := fun c hc => h c (List.mem_reverse.1 hc)
  rw [trimEnd, List.reverse_append, List.dropWhile_append_of_pos hreverse, trimEnd]

/-- Blanks around a text do not count. -/
theorem trim_append (hlead : Blank lead) (htail : Blank tail) :
    trim (lead ++ cs ++ tail) = trim cs := by
  rw [trim, trim, List.append_assoc, trimStart_append_of_blank hlead, trimStart, trimStart,
    List.dropWhile_append]
  split
  · rename_i hcs
    rw [List.isEmpty_iff.1 hcs]
    exact congrArg trimEnd (trimStart_of_blank htail)
  · exact trimEnd_append_of_blank htail

theorem dropWhile_of_head?_neg {p : Char → Bool} (h : ∀ c ∈ cs.head?, p c = false) :
    cs.dropWhile p = cs := by
  cases cs with
  | nil => rfl
  | cons c cs => exact List.dropWhile_cons_of_neg (by simp [h c rfl])

theorem trim_of_bare (h : Bare cs) : trim cs = cs := by
  have hlast : ∀ c ∈ cs.reverse.head?, isBlank c = false := by
    rw [List.head?_reverse]
    exact h.2
  rw [trim, trimStart, dropWhile_of_head?_neg h.1, trimEnd, dropWhile_of_head?_neg hlast,
    List.reverse_reverse]

end

end Egress.Text
