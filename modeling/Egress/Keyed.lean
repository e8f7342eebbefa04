/-!
# Lists with keys

Association lists that stand for finite maps. Two ways to write are offered: `set` keeps the order
in which keys were first written, `insert` keeps an ordered list ordered by key. Reading (`get?`)
takes the first entry of a key, so on lists without repeated keys both read back what was written
last (`get?_set`, `get?_insert`); `set` repeats no key that was not repeated before (`nodup_set`).
-/

set_option autoImplicit false

namespace Egress.Keyed

variable {κ α : Type} [DecidableEq κ]

/-- Value of the first entry with the key. -/
def get? (key : κ) : List (κ × α) → Option α
  | [] => none
  | (k, v) :: rest => if k = key then some v else get? key rest

/-- Keys in list order. -/
def keys (m : List (κ × α)) : List κ :=
  m.map Prod.fst

/-- Whether the key has an entry. -/
def mem (key : κ) (m : List (κ × α)) : Bool :=
  (get? key m).isSome

/-- Replaces the key's value where it stands, or adds the entry at the end. -/
def set (key : κ) (value : α) : List (κ × α) → List (κ × α)
  | [] => [(key, value)]
  | (k, v) :: rest => if k = key then (key, value) :: rest else (k, v) :: set key value rest

/-- Puts the entry where an ordered list stays ordered, in place of the key's old one. -/
def insert [LT κ] [DecidableLT κ] (key : κ) (value : α) : List (κ × α) → List (κ × α)
  | [] => [(key, value)]
  | (k, v) :: rest =>
    if k = key then (key, value) :: rest
    else if key < k then (key, value) :: (k, v) :: rest
    else (k, v) :: insert key value rest

/-- Without the key's first entry. -/
def erase (key : κ) : List (κ × α) → List (κ × α)
  | [] => []
  | (k, v) :: rest => if k = key then rest else (k, v) :: erase key rest

/-- The same map as an ordered list; of entries with one key the last counts. -/
def ordered [LT κ] [DecidableLT κ] (m : List (κ × α)) : List (κ × α) :=
  m.foldl (fun acc e => insert e.1 e.2 acc) []

@[simp] theorem get?_nil (key : κ) : get? key ([] : List (κ × α)) = none := rfl

theorem isSome_get?_iff {key : κ} {m : List (κ × α)} :
    (get? key m).isSome = true ↔ key ∈ keys m := by
  induction m with
  | nil => simp [keys]
  | cons e rest ih =>
    obtain ⟨k, v⟩ := e
    by_cases hk : k = key
    · simp [get?, keys, hk]
    · simpa [get?, keys, hk, Ne.symm hk] using ih

theorem get?_eq_none_iff {key : κ} {m : List (κ × α)} : get? key m = none ↔ key ∉ keys m := by
  rw [← isSome_get?_iff, Option.not_isSome_iff_eq_none]

theorem get?_set (key other : κ) (value : α) (m : List (κ × α)) :
    get? other (set key value m) = if key = other then some value else get? other m := by
  induction m with
  | nil => simp [set, get?]
  | cons e rest ih =>
    obtain ⟨k, v⟩ := e
    by_cases hk : k = key
    · subst hk
      by_cases ho : k = other <;> simp [set, get?, ho]
    · by_cases ho : k = other
      · subst ho
        simp [set, get?, hk, Ne.symm hk]
      · simp [set, get?, hk, ho, ih]

theorem get?_insert [LT κ] [DecidableLT κ] (key other : κ) (value : α) (m : List (κ × α)) :
    get? other (insert key value m) = if key = other then some value else get? other m := by
  induction m with
  | nil => simp [insert, get?]
  | cons e rest ih =>
    obtain ⟨k, v⟩ := e
    by_cases hk : k = key
    · subst hk
      by_cases ho : k = other <;> simp [insert, get?, ho]
    · by_cases hlt : key < k
      · simp [insert, get?, hk, hlt]
      · by_cases ho : k = other
        · subst ho
          simp [insert, get?, hk, hlt, Ne.symm hk]
        · simp [insert, get?, hk, hlt, ho, ih]

theorem get?_append (key : κ) (m m' : List (κ × α)) :
    get? key (m ++ m') = (get? key m).or (get? key m') := by
  induction m with
  | nil => simp
  | cons e rest ih =>
    obtain ⟨k, v⟩ := e
    by_cases hk : k = key <;> simp [get?, hk, ih]

theorem get?_filter (p : κ → Bool) (key : κ) (m : List (κ × α)) :
    get? key (m.filter fun e => p e.1) = if p key then get? key m else none := by
  induction m with
  | nil => simp
  | cons e rest ih =>
    obtain ⟨k, v⟩ := e
    by_cases hk : k = key
    · subst hk
      cases hp : p k <;> simp [get?, hp, ih]
    · cases hp : p k <;> simp [get?, hp, hk, ih]

theorem get?_mapValues {β : Type} (f : κ → α → β) (key : κ) (m : List (κ × α)) :
    get? key (m.map fun e => (e.1, f e.1 e.2)) = (get? key m).map (f key) := by
  induction m with
  | nil => rfl
  | cons e rest ih =>
    obtain ⟨k, v⟩ := e
    by_cases hk : k = key
    · subst hk
      simp [get?]
    · simpa [get?, hk] using ih

omit [DecidableEq κ] in
theorem keys_mapValues {β : Type} (f : κ → α → β) (m : List (κ × α)) :
    keys (m.map fun e => (e.1, f e.1 e.2)) = keys m := by
  simp [keys]

theorem mem_of_get? {key : κ} {value : α} {m : List (κ × α)} (h : get? key m = some value) :
    (key, value) ∈ m := by
  induction m with
  | nil => simp at h
  | cons e rest ih =>
    obtain ⟨k, v⟩ := e
    simp only [get?] at h
    split at h
    · rename_i hk
      obtain rfl := Option.some.inj h
      exact hk ▸ List.mem_cons_self
    · exact List.mem_cons_of_mem _ (ih h)

theorem get?_of_mem {key : κ} {value : α} {m : List (κ × α)} (hd : (keys m).Nodup)
    (h : (key, value) ∈ m) : get? key m = some value := by
  induction m with
  | nil => simp at h
  | cons e rest ih =>
    obtain ⟨k, v⟩ := e
    simp only [keys, List.map_cons, List.nodup_cons] at hd
    rcases List.mem_cons.1 h with he | hm
    · obtain ⟨rfl, rfl⟩ := Prod.mk.inj he
      simp [get?]
    · have hk : k ≠ key := fun hk => hd.1 (hk ▸ List.mem_map_of_mem hm)
      rw [get?, if_neg hk]
      exact ih hd.2 hm

theorem keys_set (key : κ) (value : α) (m : List (κ × α)) :
    keys (set key value m) = if key ∈ keys m then keys m else keys m ++ [key] := by
  induction m with
  | nil => simp [set, keys]
  | cons e rest ih =>
    obtain ⟨k, v⟩ := e
    by_cases hk : k = key
    · subst hk
      simp [set, keys]
    · simp only [keys] at ih
      by_cases hm : key ∈ rest.map Prod.fst <;> simp [set, keys, hk, Ne.symm hk, ih, hm]

theorem nodup_set {key : κ} {m : List (κ × α)} (value : α) (h : (keys m).Nodup) :
    (keys (set key value m)).Nodup := by
  rw [keys_set]
  split
  · exact h
  · rename_i hk
    exact List.nodup_append.2
      ⟨h, by simp, fun a ha b hb => by rintro rfl; exact hk (List.mem_singleton.1 hb ▸ ha)⟩

theorem set_of_not_mem {key : κ} {m : List (κ × α)} (value : α) (h : key ∉ keys m) :
    set key value m = m ++ [(key, value)] := by
  induction m with
  | nil => rfl
  | cons e rest ih =>
    obtain ⟨k, v⟩ := e
    simp only [keys, List.map_cons, List.mem_cons, not_or] at h
    rw [set, if_neg (Ne.symm h.1), ih h.2, List.cons_append]

theorem set_append_cons {key : κ} {m : List (κ × α)} (old value : α) (rest : List (κ × α))
    (h : key ∉ keys m) : set key value (m ++ (key, old) :: rest) = m ++ (key, value) :: rest := by
  induction m with
  | nil => simp [set]
  | cons e m ih =>
    obtain ⟨k, v⟩ := e
    simp only [keys, List.map_cons, List.mem_cons, not_or] at h
    rw [List.cons_append, set, if_neg (Ne.symm h.1), ih h.2, List.cons_append]

theorem set_of_get? {key : κ} {value : α} {m : List (κ × α)} (h : get? key m = some value) :
    set key value m = m := by
  induction m with
  | nil => cases h
  | cons e rest ih =>
    obtain ⟨k, v⟩ := e
    by_cases hk : k = key
    · subst hk
      obtain rfl : v = value := by simpa [get?] using h
      simp [set]
    · simp only [get?, if_neg hk] at h
      rw [set, if_neg hk, ih h]

theorem set_set (key : κ) (old value : α) (m : List (κ × α)) :
    set key value (set key old m) = set key value m := by
  induction m with
  | nil => simp [set]
  | cons e rest ih =>
    obtain ⟨k, v⟩ := e
    by_cases hk : k = key
    · simp [set, hk]
    · simp [set, hk, ih]

theorem mem_set {key : κ} {value : α} {m : List (κ × α)} {e : κ × α} (h : e ∈ set key value m) :
    e = (key, value) ∨ e ∈ m := by
  induction m with
  | nil => exact .inl (List.mem_singleton.1 h)
  | cons e' rest ih =>
    obtain ⟨k, v⟩ := e'
    simp only [set] at h
    split at h
    · exact (List.mem_cons.1 h).imp_right (List.mem_cons_of_mem _)
    · rcases List.mem_cons.1 h with rfl | h
      · exact .inr List.mem_cons_self
      · exact (ih h).imp_right (List.mem_cons_of_mem _)

/-! ## Erasing -/

theorem erase_sublist (key : κ) (m : List (κ × α)) : (erase key m).Sublist m := by
  induction m with
  | nil => exact List.Sublist.slnil
  | cons e rest ih =>
    obtain ⟨k, v⟩ := e
    simp only [erase]
    split
    · exact List.sublist_cons_self _ _
    · exact List.Sublist.cons_cons _ ih

theorem get?_erase_of_ne {key other : κ} (h : key ≠ other) (m : List (κ × α)) :
    get? other (erase key m) = get? other m := by
  induction m with
  | nil => rfl
  | cons e rest ih =>
    obtain ⟨k, v⟩ := e
    by_cases hk : k = key
    · subst hk
      simp [erase, get?, h]
    · simp [erase, get?, hk, ih]

end Egress.Keyed
