import Egress.Text.Blank
import Egress.Text.Piece

/-!
# Words of a text

The words of a text are what is left of it when it is cut at every blank and nothing empty is kept
(`words_eq`). A list whose elements stand for a blank each or for something without blanks can be
cut in the same way (`wordsBy`), and its pieces stand for the words of the text that it stands for
(`words_flatMap`).
-/

set_option autoImplicit false

namespace Egress.Text

variable {α : Type} {blank : α → Bool}

/-- The maximal runs of other elements between those that are blank, in order. -/
def wordsBy (blank : α → Bool) (l : List α) : List (List α) :=
  (l.splitOnP blank).filter fun w => !w.isEmpty

/-- A solid beginning belongs to the first piece. -/
theorem splitOnP_append_eq {s : List α} (h : ∀ a ∈ s, blank a = false) (l : List α) :
    ∃ w ws, l.splitOnP blank = w :: ws ∧ (s ++ l).splitOnP blank = (s ++ w) :: ws := by
  induction s with
  | nil =>
    obtain ⟨w, ws, hl⟩ := List.exists_cons_of_ne_nil (List.splitOnP_ne_nil blank l)
    exact ⟨w, ws, hl, hl⟩
  | cons a s ih =>
    obtain ⟨w, ws, hl, hs⟩ := ih fun b hb => h b (List.mem_cons_of_mem a hb)
    obtain ⟨w', ws', hs', has⟩ := splitOnP_cons_eq (h a List.mem_cons_self) (s ++ l)
    obtain ⟨rfl, rfl⟩ := List.cons.inj (hs.symm.trans hs')
    exact ⟨w, ws, hl, has⟩

theorem wordsBy_cons_blank {a : α} (h : blank a = true) (l : List α) :
    wordsBy blank (a :: l) = wordsBy blank l := by
  rw [wordsBy, List.splitOnP_cons_eq_if_modifyHead, if_pos h]
  rfl

/-- The words of a text are its pieces between blanks. -/
theorem words_eq (cs : List Char) : words cs = wordsBy isBlank cs := by
  fun_induction words cs with
  | case1 => rfl
  | case2 c h => simp [wordsBy, List.splitOnP_cons_eq_if_modifyHead, h]
  | case3 c h => simp [wordsBy, List.splitOnP_cons_eq_if_modifyHead, h]
  | case4 c d rest hc ih => rw [ih, wordsBy_cons_blank hc]
  | case5 c d rest hc hd ih =>
    have hc : isBlank c = false := by simpa using hc
    rw [ih, wordsBy, wordsBy]
    simp [List.splitOnP_cons_eq_if_modifyHead, hc, hd]
  | case6 c d rest hc hd ih =>
    -- the next character continues the word, so the first piece is not empty
    have hc : isBlank c = false := by simpa using hc
    have hd : isBlank d = false := by simpa using hd
    obtain ⟨w, ws, -, hrest⟩ := splitOnP_cons_eq hd rest
    obtain ⟨w', ws', hw', hall⟩ := splitOnP_cons_eq hc (d :: rest)
    obtain ⟨rfl, rfl⟩ := List.cons.inj (hrest.symm.trans hw')
    rw [ih, wordsBy, wordsBy, hrest, hall]
    rfl

section
variable {f : α → List Char} (hblank : ∀ a, blank a = true → ∃ c, f a = [c] ∧ isBlank c = true)
  (hsolid : ∀ a, blank a = false → f a ≠ [] ∧ ∀ c ∈ f a, isBlank c = false)
include hblank hsolid

theorem splitOnP_flatMap (l : List α) :
    (l.flatMap f).splitOnP isBlank = (l.splitOnP blank).map fun w => w.flatMap f := by
  induction l with
  | nil => rfl
  | cons a l ih =>
    rw [List.flatMap_cons]
    cases ha : blank a with
    | true =>
      obtain ⟨c, hc, hcb⟩ := hblank a ha
      rw [hc, List.singleton_append, List.splitOnP_cons_eq_if_modifyHead, if_pos hcb, ih,
        List.splitOnP_cons_eq_if_modifyHead, if_pos ha]
      rfl
    | false =>
      obtain ⟨w, ws, hl, hal⟩ := splitOnP_cons_eq ha l
      obtain ⟨v, vs, hv, hfv⟩ := splitOnP_append_eq (hsolid a ha).2 (l.flatMap f)
      rw [ih, hl, List.map_cons] at hv
      obtain ⟨rfl, rfl⟩ := List.cons.inj hv
      rw [hal, hfv, List.map_cons, List.flatMap_cons]

/-- The words of the text that a list stands for are what the list's words stand for. -/
theorem words_flatMap (l : List α) :
    words (l.flatMap f) = (wordsBy blank l).map fun w => w.flatMap f := by
  rw [words_eq, wordsBy, splitOnP_flatMap hblank hsolid, List.filter_map, wordsBy]
  -- what a piece stands for is empty only if the piece is
  refine congrArg _ (List.filter_congr fun w hw => ?_)
  cases w with
  | nil => rfl
  | cons a w =>
    have ha : f a ≠ [] := (hsolid a (splitOnP_solid hw a List.mem_cons_self)).1
    simp [ha]

end

end Egress.Text
