import Egress.Host.FileStore.Change
import Egress.Proofs.Except

/-!
# Where paths lead

All that is asked for on the way along a path are directories, so in a store that has lost none it
leads to the same location (`Keeps.follow`). The directory that a path's last name is looked up in is
found without a look at the empty pieces of the path, which makes no difference where that name can
be looked up (`follow_of_named`).
-/

set_option autoImplicit false

namespace Egress.Host.FileStore

variable {s s' : FileStore}

/-- All directories of a store are in another one, and it is worked in from the same one. -/
structure Keeps (s s' : FileStore) : Prop where
  cwd : s'.cwd = s.cwd
  directories : ∀ l mode, s.entry? l = some (.directory mode) → s'.entry? l = some (.directory mode)

theorem search_eq_ok_iff (s : FileStore) (l : Location) :
    s.search l = .ok () ↔ ∃ mode, s.entry? l = some (.directory mode) ∧ mayExecute mode = true := by
  unfold search
  cases s.entry? l with
  | none => simp
  | some e => cases e <;> simp

theorem Keeps.search (h : Keeps s s') {l : Location} (hl : s.search l = .ok ()) :
    s'.search l = .ok () := by
  obtain ⟨mode, hmode, hx⟩ := (search_eq_ok_iff s l).1 hl
  exact (search_eq_ok_iff s' l).2 ⟨mode, h.directories l mode hmode, hx⟩

theorem mayChange_eq_ok_iff (s : FileStore) (l : Location) : s.mayChange l = .ok () ↔
    ∃ mode, s.entry? l = some (.directory mode) ∧ (mayWrite mode && mayExecute mode) = true := by
  unfold mayChange
  cases s.entry? l with
  | none => simp
  | some e => cases e <;> simp

theorem Keeps.mayChange (h : Keeps s s') {l : Location} (hl : s.mayChange l = .ok ()) :
    s'.mayChange l = .ok () := by
  obtain ⟨mode, hmode, hx⟩ := (mayChange_eq_ok_iff s l).1 hl
  exact (mayChange_eq_ok_iff s' l).2 ⟨mode, h.directories l mode hmode, hx⟩

theorem Keeps.begin?_eq (h : Keeps s s') (path : String) : s'.begin? path = s.begin? path := by
  rw [begin?, begin?, h.cwd]

/-! ## Following pieces -/

/-- Where a single name leads from a directory. -/
def step (l : Location) (piece : List Char) : Except Fault Location :=
  if piece = ['.'] then .ok l else if piece = ['.', '.'] then .ok l.dropLast else child l piece

theorem follow_empty_ok_iff (s : FileStore) (l : Location) (ps : List (List Char)) (a : Location) :
    s.follow l ([] :: ps) = .ok a
      ↔ (∃ mode, s.entry? l = some (.directory mode)) ∧ s.follow l ps = .ok a := by
  rw [follow]
  cases s.entry? l with
  | none => simp
  | some e => cases e <;> simp

theorem follow_named_ok_iff (s : FileStore) (l : Location) {p : List Char} (hp : p ≠ [])
    (ps : List (List Char)) (a : Location) :
    s.follow l (p :: ps) = .ok a
      ↔ s.search l = .ok () ∧ ∃ b, step l p = .ok b ∧ s.follow b ps = .ok a := by
  obtain ⟨c, cs, rfl⟩ := List.exists_cons_of_ne_nil hp
  rw [follow]
  · cases s.search l with
    | error e => simp
    | ok u =>
      simp only [step, true_and]
      split
      · simp
      · split
        · simp
        · cases child l (c :: cs) <;> simp
  · nofun

theorem Keeps.follow (h : Keeps s s') {l a : Location} {ps : List (List Char)}
    (ha : s.follow l ps = .ok a) : s'.follow l ps = .ok a := by
  induction ps generalizing l with
  | nil => exact ha
  | cons p ps ih =>
    by_cases hp : p = []
    · subst hp
      obtain ⟨⟨mode, hmode⟩, ha⟩ := (follow_empty_ok_iff ..).1 ha
      exact (follow_empty_ok_iff ..).2 ⟨⟨mode, h.directories l mode hmode⟩, ih ha⟩
    · obtain ⟨hl, m, hm, ha⟩ := (follow_named_ok_iff _ _ hp _ _).1 ha
      exact (follow_named_ok_iff _ _ hp _ _).2 ⟨h.search hl, m, hm, ih ha⟩

theorem follow_append_ok_iff (s : FileStore) (l : Location) (ps qs : List (List Char))
    (a : Location) :
    s.follow l (ps ++ qs) = .ok a ↔ ∃ b, s.follow l ps = .ok b ∧ s.follow b qs = .ok a := by
  induction ps generalizing l with
  | nil => simp [FileStore.follow]
  | cons p ps ih =>
    rw [List.cons_append]
    by_cases hp : p = []
    · subst hp
      simp only [follow_empty_ok_iff, ih]
      exact ⟨fun ⟨hm, b, hb, ha⟩ => ⟨b, ⟨hm, hb⟩, ha⟩, fun ⟨b, ⟨hm, hb⟩, ha⟩ => ⟨hm, b, hb, ha⟩⟩
    · simp only [follow_named_ok_iff _ _ hp, ih]
      exact ⟨fun ⟨hl, m, hm, b, hb, ha⟩ => ⟨b, ⟨hl, m, hm, hb⟩, ha⟩,
        fun ⟨b, ⟨hl, m, hm, hb⟩, ha⟩ => ⟨hl, m, hm, b, hb, ha⟩⟩

theorem follow_singleton_ok_iff (s : FileStore) (l : Location) {p : List Char} (hp : p ≠ [])
    (a : Location) : s.follow l [p] = .ok a ↔ s.search l = .ok () ∧ step l p = .ok a := by
  rw [follow_named_ok_iff _ _ hp]
  simp [FileStore.follow]

/-- A way with empty pieces in it can be gone if the way without them can, up to a name that is
looked up. -/
theorem follow_of_named {l a : Location} {ps : List (List Char)}
    (ha : s.follow l (ps.filter (!·.isEmpty)) = .ok a) (hsearch : s.search a = .ok ()) :
    s.follow l ps = .ok a := by
  induction ps generalizing l with
  | nil => exact ha
  | cons p ps ih =>
    by_cases hp : p = []
    · subst hp
      rw [List.filter_cons_of_neg (by simp)] at ha
      -- the next thing looked up after an empty piece is looked up in the same directory
      have hl : s.search l = .ok () := by
        cases hqs : ps.filter (!·.isEmpty) with
        | nil =>
          rw [hqs] at ha
          exact Except.ok.inj ha ▸ hsearch
        | cons q qs =>
          have hq : q ≠ [] := by
            have hmem : q ∈ ps.filter (!·.isEmpty) := hqs ▸ List.mem_cons_self
            simpa using (List.mem_filter.1 hmem).2
          rw [hqs] at ha
          exact ((follow_named_ok_iff _ _ hq _ _).1 ha).1
      obtain ⟨mode, hmode, -⟩ := (search_eq_ok_iff s l).1 hl
      exact (follow_empty_ok_iff ..).2 ⟨⟨mode, hmode⟩, ih ha⟩
    · rw [List.filter_cons_of_pos (by simpa using hp)] at ha
      obtain ⟨hl, m, hm, ha⟩ := (follow_named_ok_iff _ _ hp _ _).1 ha
      exact (follow_named_ok_iff _ _ hp _ _).2 ⟨hl, m, hm, ih ha⟩

/-- A way without its empty pieces leads to the same location. -/
theorem follow_filter {l a : Location} {ps : List (List Char)} (ha : s.follow l ps = .ok a) :
    s.follow l (ps.filter (!·.isEmpty)) = .ok a := by
  induction ps generalizing l with
  | nil => exact ha
  | cons p ps ih =>
    by_cases hp : p = []
    · subst hp
      rw [List.filter_cons_of_neg (by simp)]
      exact ih ((follow_empty_ok_iff ..).1 ha).2
    · rw [List.filter_cons_of_pos (by simpa using hp)]
      obtain ⟨hl, m, hm, ha⟩ := (follow_named_ok_iff _ _ hp _ _).1 ha
      exact (follow_named_ok_iff _ _ hp _ _).2 ⟨hl, m, hm, ih ha⟩

/-! ## Paths -/

theorem step_name {p : List Char} (hp : isName (some p) = true) (l : Location) :
    step l p = child l p := by
  simp only [isName, Bool.and_eq_true, decide_eq_true_eq] at hp
  rw [step, if_neg hp.1, if_neg hp.2]

theorem pieces_of_begin? {path : String} {start : Location} {ps : List (List Char)}
    (h : s.begin? path = .ok (start, ps)) : ps = Text.pieces '/' path.toList ∧ path ≠ "" := by
  unfold begin? at h
  split at h
  · cases h
  · split at h
    · cases h
    · next hne =>
      split at h
      · cases h
      · injection h with h
        injection h with _ h
        exact ⟨h.symm, hne⟩

/-- The last of the pieces is empty only where the text ends with the mark. -/
theorem getLast?_pieces {mark : Char} {cs : List Char}
    (h : (Text.pieces mark cs).getLast? = some []) : cs = [] ∨ cs.getLast? = some mark := by
  induction cs with
  | nil => exact .inl rfl
  | cons c cs ih =>
    obtain ⟨q, qs, hq⟩ := List.exists_cons_of_ne_nil (Text.pieces_ne_nil mark cs)
    refine .inr ?_
    by_cases hc : c = mark
    · rw [Text.pieces, if_pos hc, hq, List.getLast?_cons_cons, ← hq] at h
      rcases ih h with rfl | h
      · rw [hc]
        rfl
      · rw [List.getLast?_cons, h]
        rfl
    · simp only [Text.pieces, if_neg hc, hq] at h
      cases qs with
      | nil => simp at h
      | cons r rs =>
        rw [List.getLast?_cons_cons, ← List.getLast?_cons_cons (a := q), ← hq] at h
        rcases ih h with rfl | h
        · simp [Text.pieces] at hq
        · rw [List.getLast?_cons, h]
          rfl

theorem pieces_of_not_endsInSlash {path : String} (hne : path ≠ "") (h : endsInSlash path = false) :
    ∃ ps p, Text.pieces '/' path.toList = ps ++ [p] ∧ p ≠ [] := by
  have hps := List.dropLast_concat_getLast (Text.pieces_ne_nil '/' path.toList)
  refine ⟨_, _, hps.symm, fun hnil => ?_⟩
  have hlast : (Text.pieces '/' path.toList).getLast? = some [] := by
    rw [List.getLast?_eq_some_getLast (Text.pieces_ne_nil _ _), hnil]
  rcases getLast?_pieces hlast with hpath | hslash
  · exact hne (by simpa using hpath)
  · simp [endsInSlash, hslash] at h

theorem holder_eq {path : String} {ps : List (List Char)} {p : List Char}
    (hpieces : Text.pieces '/' path.toList = ps ++ [p]) (hp : p ≠ []) :
    s.holder path = s.begin? path >>= fun begun => s.follow begun.1 (ps.filter (!·.isEmpty)) >>=
      fun dir => s.search dir >>= fun _ => .ok (dir, some p) := by
  cases hb : s.begin? path with
  | error e => simp only [holder, hb, bind, Except.bind]
  | ok begun =>
    obtain ⟨start, qs⟩ := begun
    obtain ⟨rfl, -⟩ := pieces_of_begin? hb
    have hreverse : ((Text.pieces '/' path.toList).filter (!·.isEmpty)).reverse
        = p :: (ps.filter (!·.isEmpty)).reverse := by
      simp [hpieces, List.filter_append, hp]
    simp only [holder, hb, bind, Except.bind, hreverse, List.reverse_reverse]
    rfl

theorem holder_ok_iff {path : String} {ps : List (List Char)} {p : List Char}
    (hpieces : Text.pieces '/' path.toList = ps ++ [p]) (hp : p ≠ []) {dir : Location}
    {name : Option (List Char)} :
    s.holder path = .ok (dir, name) ↔ name = some p ∧ ∃ begun, s.begin? path = .ok begun ∧
      s.follow begun.1 (ps.filter (!·.isEmpty)) = .ok dir ∧ s.search dir = .ok () := by
  simp only [holder_eq hpieces hp, bind_eq_ok, Except.ok.injEq, Prod.mk.injEq]
  constructor
  · rintro ⟨begun, hb, d, hd, u, hsearch, rfl, rfl⟩
    exact ⟨rfl, begun, hb, hd, hsearch⟩
  · rintro ⟨rfl, begun, hb, hd, hsearch⟩
    exact ⟨begun, hb, dir, hd, (), hsearch, rfl, rfl⟩

/-- A path that ends in a name leads to that name below what holds it. -/
theorem locate_ok_iff {path : String} {ps : List (List Char)} {p : List Char} {l : Location}
    (hpieces : Text.pieces '/' path.toList = ps ++ [p]) (hp : p ≠ [])
    (hname : isName (some p) = true) :
    s.locate path = .ok l ↔ ∃ dir, s.holder path = .ok (dir, some p) ∧ child dir p = .ok l := by
  have hlocate : s.locate path = .ok l ↔ ∃ begun, s.begin? path = .ok begun ∧
      ∃ dir, s.follow begun.1 ps = .ok dir ∧ s.search dir = .ok () ∧ child dir p = .ok l := by
    rw [locate, bind_eq_ok]
    refine exists_congr fun begun => and_congr_right fun hb => ?_
    obtain ⟨start, qs⟩ := begun
    obtain ⟨rfl, -⟩ := pieces_of_begin? hb
    simp only [hpieces, follow_append_ok_iff, follow_singleton_ok_iff _ _ hp, step_name hname]
  rw [hlocate]
  constructor
  · rintro ⟨begun, hb, dir, hdir, hsearch, hl⟩
    exact ⟨dir, (holder_ok_iff hpieces hp).2 ⟨rfl, begun, hb, follow_filter hdir, hsearch⟩, hl⟩
  · rintro ⟨dir, hdir, hl⟩
    obtain ⟨-, begun, hb, hdir, hsearch⟩ := (holder_ok_iff hpieces hp).1 hdir
    exact ⟨begun, hb, dir, follow_of_named hdir hsearch, hsearch, hl⟩

theorem Keeps.locate (h : Keeps s s') {path : String} {a : Location}
    (ha : s.locate path = .ok a) : s'.locate path = .ok a := by
  obtain ⟨begun, hbegun, ha⟩ := bind_eq_ok.1 ha
  exact bind_eq_ok.2 ⟨begun, (h.begin?_eq path).trans hbegun, h.follow ha⟩

end Egress.Host.FileStore
