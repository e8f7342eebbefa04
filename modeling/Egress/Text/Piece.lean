/-!
# Pieces of a text

Cutting a text at every occurrence of a character, as the list of its characters is split there
(`pieces_eq_splitOn`). `pieces` and joining are inverse to each other on texts without the character
(`pieces_intercalate`, `intercalate_pieces`).
-/

set_option autoImplicit false

namespace Egress.Text

/-! ## Splitting a list -/

section

variable {α : Type} {blank : α → Bool}

theorem splitOnP_cons_eq {a : α} (h : blank a = false) (l : List α) :
    ∃ w ws, l.splitOnP blank = w :: ws ∧ (a :: l).splitOnP blank = (a :: w) :: ws := by
  obtain ⟨w, ws, hl⟩ := List.exists_cons_of_ne_nil (List.splitOnP_ne_nil blank l)
  refine ⟨w, ws, hl, ?_⟩
  rw [List.splitOnP_cons_eq_if_modifyHead, h, hl]
  rfl

/-- No piece of a cut has a blank in it. -/
theorem splitOnP_solid {l w : List α} (hw : w ∈ l.splitOnP blank) : ∀ a ∈ w, blank a = false := by
  induction l generalizing w with
  | nil =>
    obtain rfl : w = [] := by simpa using hw
    simp
  | cons b l ih =>
    cases hb : blank b with
    | true =>
      rw [List.splitOnP_cons_eq_if_modifyHead, if_pos hb] at hw
      rcases List.mem_cons.1 hw with rfl | hw
      · simp
      · exact ih hw
    | false =>
      obtain ⟨v, vs, hl, hbl⟩ := splitOnP_cons_eq hb l
      rw [hbl] at hw
      rcases List.mem_cons.1 hw with rfl | hw
      · intro a ha
        rcases List.mem_cons.1 ha with rfl | ha
        · exact hb
        · exact ih (hl ▸ List.mem_cons_self) a ha
      · exact ih (hl ▸ List.mem_cons_of_mem v hw)

end

/-! ## Splitting a text -/

/-- The pieces before, between and after the occurrences of a character. -/
def pieces (mark : Char) : List Char → List (List Char)
  | [] => [[]]
  | c :: rest =>
    if c = mark then [] :: pieces mark rest
    else match pieces mark rest with
      | [] => [[c]]
      | piece :: more => (c :: piece) :: more

/-- The pieces are those that a list is split into at an element. -/
theorem pieces_eq_splitOn (mark : Char) (cs : List Char) : pieces mark cs = cs.splitOn mark := by
  induction cs with
  | nil => rfl
  | cons c rest ih =>
    obtain ⟨p, ps, hp⟩ := List.exists_cons_of_ne_nil (List.splitOn_ne_nil mark rest)
    rw [pieces, ih, List.splitOn_cons_eq_if_modifyHead, hp]
    by_cases hc : c = mark <;> simp [hc]

theorem pieces_ne_nil (mark : Char) (cs : List Char) : pieces mark cs ≠ [] := by
  rw [pieces_eq_splitOn]
  exact List.splitOn_ne_nil mark cs

/-- Joining the pieces gives the text back. -/
theorem intercalate_pieces (mark : Char) (cs : List Char) :
    [mark].intercalate (pieces mark cs) = cs := by
  rw [pieces_eq_splitOn, List.intercalate_splitOn]

theorem pieces_of_not_mem {mark : Char} {cs : List Char} (h : mark ∉ cs) :
    pieces mark cs = [cs] := by
  rw [pieces_eq_splitOn, List.splitOn_eq_singleton h]

/-- A mark ends a piece, whatever comes before it. -/
theorem pieces_append_mark (mark : Char) (cs rest : List Char) :
    pieces mark (cs ++ mark :: rest) = pieces mark cs ++ pieces mark rest := by
  simp only [pieces_eq_splitOn, List.splitOn_append_cons_self]

theorem pieces_append_cons {mark : Char} {cs : List Char} (h : mark ∉ cs) (rest : List Char) :
    pieces mark (cs ++ mark :: rest) = cs :: pieces mark rest := by
  rw [pieces_append_mark, pieces_of_not_mem h, List.singleton_append]

theorem not_mem_of_mem_pieces {mark : Char} {cs p : List Char} (h : p ∈ pieces mark cs) :
    mark ∉ p := by
  rw [pieces_eq_splitOn, List.splitOn_eq_splitOnP] at h
  intro hmark
  simpa using splitOnP_solid h mark hmark

/-- Every other character is in one of the pieces. -/
theorem exists_mem_pieces {mark c : Char} {cs : List Char} (h : c ∈ cs) (hc : c ≠ mark) :
    ∃ p ∈ pieces mark cs, c ∈ p := by
  induction cs with
  | nil => cases h
  | cons d cs ih =>
    obtain ⟨q, qs, hq⟩ := List.exists_cons_of_ne_nil (pieces_ne_nil mark cs)
    rw [hq] at ih
    rcases List.mem_cons.1 h with rfl | h
    · exact ⟨c :: q, by simp [pieces, hc, hq], List.mem_cons_self⟩
    · obtain ⟨p, hp, hcp⟩ := ih h
      by_cases hd : d = mark
      · exact ⟨p, by simp [pieces, hd, hq, List.mem_cons.1 hp], hcp⟩
      · rcases List.mem_cons.1 hp with rfl | hp
        · exact ⟨d :: p, by simp [pieces, hd, hq], List.mem_cons_of_mem d hcp⟩
        · exact ⟨p, by simp [pieces, hd, hq, hp], hcp⟩

/-- Pieces without the mark are found again in what joining them gives. -/
theorem pieces_intercalate {mark : Char} {ps : List (List Char)} (hne : ps ≠ [])
    (h : ∀ p ∈ ps, mark ∉ p) : pieces mark ([mark].intercalate ps) = ps := by
  rw [pieces_eq_splitOn, List.splitOn_intercalate mark h hne]

end Egress.Text
