import Egress.Config.Basic
import Egress.Proofs.Except

/-!
# What a group of fields holds

Entry by entry, a group of fields takes over the values of those it declares. A part of the outcome
belongs to one field if that field writes it and no other does (`Field.Holds`). Then it is what the
field reads from its entry (`Field.Holds.of_get?`), and without an entry it stays as it was
(`Field.Holds.kept`): no field takes over two entries. Reading does not fail on entries with
distinct keys if each of them is accepted for itself (`Field.readEntries_total`).
-/

set_option autoImplicit false

namespace Egress

open Document

/-! ## Numbers -/

theorem readInteger_eq_ok_iff {v : Value} {n : Int} : readInteger v = .ok n ↔ v = .integer n := by
  cases v <;> simp [readInteger, mismatch]

theorem readNatural_eq_ok_iff {expected : String} {bound n : Nat} {v : Value} :
    readNatural expected bound v = .ok n ↔ v = .integer n ∧ n < bound := by
  constructor
  · intro h
    cases v with
    | integer m =>
      rw [readNatural] at h
      split at h
      · rename_i hm
        obtain rfl := Except.ok.inj h
        obtain ⟨hnonneg, hlt⟩ : 0 ≤ m ∧ m < bound := by simpa using hm
        exact ⟨by rw [Int.toNat_of_nonneg hnonneg], by omega⟩
      · cases h
    | _ => cases h
  · rintro ⟨rfl, h⟩
    simp [readNatural, h]

/-! ## Groups of fields -/

namespace Field

variable {σ α : Type} {fields : List (Field σ)} {seen : List String} {s s' : σ} {es : Table}

/-- The field of a group that takes over the entries with a key, if there is one. -/
def taker (fields : List (Field σ)) (key : String) : Option String :=
  (fields.find? (·.answers key)).map Field.key

/-- Taking over one more entry: no field answers to it, or one does that had no entry yet. -/
theorem readEntries_cons {k : String} {v : Value} {rest : Table}
    (h : readEntries fields seen s ((k, v) :: rest) = .ok s') :
    (taker fields k = none ∧ readEntries fields seen s rest = .ok s') ∨
      ∃ f ∈ fields, taker fields k = some f.key ∧ f.key ∉ seen ∧
        ∃ s₁, f.read v s = .ok s₁ ∧ readEntries fields (f.key :: seen) s₁ rest = .ok s' := by
  rw [readEntries] at h
  split at h
  · rename_i hnone
    exact .inl ⟨by rw [taker, hnone]; rfl, h⟩
  · rename_i f hf
    split at h
    · cases h
    · rename_i hseen
      split at h
      · cases h
      · rename_i s₁ hread
        refine .inr ⟨f, List.mem_of_find?_eq_some hf, by rw [taker, hf]; rfl, ?_, s₁, hread, h⟩
        simpa using hseen

/-- `part` belongs to the field `key`: this field puts there what `reader` makes of its value, and
no other field touches it. -/
structure Holds (fields : List (Field σ)) (key : String) (reader : Value → Except FieldError α)
    (part : σ → α) : Prop where
  named : taker fields key = some key
  writes : ∀ f ∈ fields, f.key = key → ∀ v s, (f.read v s).map part = reader v
  frame : ∀ f ∈ fields, f.key ≠ key → ∀ v s s', f.read v s = .ok s' → part s' = part s

namespace Holds

variable {key : String} {reader : Value → Except FieldError α} {part : σ → α}

/-- Without an entry, or after the one it had, a field's part stays as it is. -/
theorem kept (h : Holds fields key reader part)
    (hnone : ∀ k ∈ Keyed.keys es, taker fields k = some key → key ∈ seen)
    (hr : readEntries fields seen s es = .ok s') : part s' = part s := by
  induction es generalizing seen s with
  | nil =>
    obtain rfl := Except.ok.inj hr
    rfl
  | cons e rest ih =>
    obtain ⟨k, v⟩ := e
    have hrest : ∀ k ∈ Keyed.keys rest, taker fields k = some key → key ∈ seen :=
      fun k hk => hnone k (List.mem_cons_of_mem _ hk)
    rcases readEntries_cons hr with ⟨-, hr⟩ | ⟨f, hf, htaker, hseen, s₁, hread, hr⟩
    · exact ih hrest hr
    · -- a second entry of the field would have been refused
      have hother : f.key ≠ key := by
        rintro rfl
        exact hseen (hnone k List.mem_cons_self htaker)
      have hlater : part s' = part s₁ :=
        ih (fun k hk ht => List.mem_cons_of_mem _ (hrest k hk ht)) hr
      exact hlater.trans (h.frame f hf hother v s s₁ hread)

/-- A field's part is what it reads from its entry. -/
theorem of_get? (h : Holds fields key reader part) {v : Value} (hv : Keyed.get? key es = some v)
    (hr : readEntries fields seen s es = .ok s') : reader v = .ok (part s') := by
  induction es generalizing seen s with
  | nil => cases hv
  | cons e rest ih =>
    obtain ⟨k, w⟩ := e
    by_cases hk : k = key
    · subst hk
      obtain rfl : w = v := by simpa [Keyed.get?] using hv
      rcases readEntries_cons hr with ⟨hnone, -⟩ | ⟨f, hf, htaker, -, s₁, hread, hrest⟩
      · rw [h.named] at hnone
        cases hnone
      · have hkey : f.key = k := Option.some.inj (htaker.symm.trans h.named)
        -- the field is taken now, so what follows leaves its part alone
        have hlater : part s' = part s₁ :=
          h.kept (fun _ _ _ => List.mem_cons.2 (.inl hkey.symm)) hrest
        rw [hlater, ← h.writes f hf hkey w s, hread]
        rfl
    · rw [Keyed.get?, if_neg hk] at hv
      rcases readEntries_cons hr with ⟨-, hr⟩ | ⟨f, -, -, -, s₁, -, hr⟩
      · exact ih hv hr
      · exact ih hv hr

/-- Without an entry, the part of a field with one spelling stays as it was. -/
theorem of_absent (h : Holds fields key reader part)
    (hone : ∀ f ∈ fields, f.key = key → f.spellings = [])
    (habsent : Keyed.get? key es = none) (hr : readEntries fields seen s es = .ok s') :
    part s' = part s := by
  refine h.kept (fun k hk htaker => ?_) hr
  obtain ⟨f, hf, hkey⟩ := Option.map_eq_some_iff.1 htaker
  have hanswers : f.answers k = true := by simpa using List.find?_some hf
  rw [answers, hone f (List.mem_of_find?_eq_some hf) hkey] at hanswers
  have hkk : f.key = k := by simpa using hanswers
  rw [← hkk, hkey] at hk
  exact absurd hk (Keyed.get?_eq_none_iff.1 habsent)

end Holds

/-! ## Reading all entries -/

/-- A field answers to the key and takes the value over, whatever was taken over before. -/
def Accepts (fields : List (Field σ)) (key : String) (v : Value) : Prop :=
  ∃ f, fields.find? (·.answers key) = some f ∧ f.key = key ∧ ∀ s, ∃ s', f.read v s = .ok s'

theorem Holds.accepts {key : String} {reader : Value → Except FieldError α} {part : σ → α}
    (h : Holds fields key reader part) {v : Value} {a : α} (hv : reader v = .ok a) :
    Accepts fields key v := by
  obtain ⟨f, hf, hkey⟩ := Option.map_eq_some_iff.1 h.named
  refine ⟨f, hf, hkey, fun s => ?_⟩
  have hread : (f.read v s).map part = .ok a :=
    (h.writes f (List.mem_of_find?_eq_some hf) hkey v s).trans hv
  obtain ⟨s', hs', -⟩ := map_eq_ok.1 hread
  exact ⟨s', hs'⟩

/-- Entries with distinct keys are all taken over if each of them is accepted. -/
theorem readEntries_total (hd : (Keyed.keys es).Nodup) (hseen : ∀ k ∈ Keyed.keys es, k ∉ seen)
    (h : ∀ e ∈ es, Accepts fields e.1 e.2) : ∃ s', readEntries fields seen s es = .ok s' := by
  induction es generalizing seen s with
  | nil => exact ⟨s, rfl⟩
  | cons e rest ih =>
    obtain ⟨k, v⟩ := e
    obtain ⟨f, hf, hkey, hread⟩ := h (k, v) List.mem_cons_self
    obtain ⟨s₁, hs₁⟩ := hread s
    obtain ⟨hk, hrest⟩ := List.nodup_cons.1 hd
    have hunseen : ¬ seen.contains f.key = true := by
      rw [hkey, List.contains_iff_mem]
      exact hseen k List.mem_cons_self
    have hseen' : ∀ k' ∈ Keyed.keys rest, k' ∉ f.key :: seen := by
      intro k' hk' hmem
      rcases List.mem_cons.1 hmem with rfl | hmem
      · exact hk (hkey ▸ hk')
      · exact hseen k' (List.mem_cons_of_mem _ hk') hmem
    obtain ⟨s', hs'⟩ := ih (s := s₁) hrest hseen' fun e he => h e (List.mem_cons_of_mem _ he)
    refine ⟨s', ?_⟩
    rw [readEntries, hf]
    simp only
    rw [if_neg hunseen, hs₁]
    exact hs'

end Field

/-! ## The groups of the settings -/

theorem Settings.fields_hold :
    Field.Holds fields "vendors" readTexts (·.vendors) ∧
      Field.Holds fields "listen" ListenSettings.ofValue (·.listen) ∧
      Field.Holds fields "router" RouterSettings.ofValue (·.router) := by
  refine ⟨?_, ?_, ?_⟩ <;>
    exact ⟨by decide, by simp [fields, map_map_cancel], by simp +contextual [fields, map_eq_ok]⟩

theorem Settings.interval_holds : Field.Holds fields "refresh_interval" (readNatural "u64" bound64)
    (·.refreshInterval) :=
  ⟨by decide, by simp [fields, map_map_cancel], by simp +contextual [fields, map_eq_ok]⟩

theorem CheckSettings.fields_hold :
    Field.Holds fields "command" readText (·.command) ∧
      Field.Holds fields "match" readText (·.pattern) := by
  refine ⟨?_, ?_⟩ <;>
    exact ⟨by decide, by simp [fields, map_map_cancel], by simp +contextual [fields, map_eq_ok]⟩

theorem ListenSettings.fields_hold :
    Field.Holds fields "address" readText (·.address) ∧
      Field.Holds fields "http" readInteger (·.http) ∧
      Field.Holds fields "https" readInteger (·.https) := by
  refine ⟨?_, ?_, ?_⟩ <;>
    exact ⟨by decide, by simp [fields, map_map_cancel], by simp +contextual [fields, map_eq_ok]⟩

/-- The user and the password of the listener, which can be missing. -/
theorem ListenSettings.optional_fields_hold :
    Field.Holds fields "username" (fun v => (readText v).map some) (·.username) ∧
      Field.Holds fields "password" (fun v => (readText v).map some) (·.password) := by
  refine ⟨?_, ?_⟩ <;>
    exact ⟨by decide, by simp [fields, map_map], by simp +contextual [fields, map_eq_ok]⟩

theorem RouterSettings.fields_hold :
    Field.Holds fields "mode" readText (·.mode) ∧
      Field.Holds fields "config_file" readText (·.configFile) ∧
      Field.Holds fields "start_command" readText (·.startCommand) ∧
      Field.Holds fields "stop_command" readText (·.stopCommand) ∧
      Field.Holds fields "status_command" readText (·.statusCommand) ∧
      Field.Holds fields "wait_seconds" (readNatural "u64" bound64) (·.waitSeconds) ∧
      Field.Holds fields "host" readText (·.host) ∧
      Field.Holds fields "port" (readNatural "u16" bound16) (·.port) ∧
      Field.Holds fields "user" readText (·.user) := by
  refine ⟨?_, ?_, ?_, ?_, ?_, ?_, ?_, ?_, ?_⟩ <;>
    exact ⟨by decide, by simp [fields, map_map_cancel], by simp +contextual [fields, map_eq_ok]⟩

theorem RouterSettings.mode_and_check_hold :
    Field.Holds fields "config_mode" readFileMode (·.configMode) ∧
      Field.Holds fields "check" CheckSettings.ofValue (·.check) := by
  refine ⟨?_, ?_⟩ <;>
    exact ⟨by decide, by simp [fields, map_map_cancel], by simp +contextual [fields, map_eq_ok]⟩

theorem RouterSettings.password_holds :
    Field.Holds fields "password" (fun v => (readText v).map some) (·.password) :=
  ⟨by decide, by simp [fields, map_map], by simp +contextual [fields, map_eq_ok]⟩

theorem Config.settings_eq_ok_iff {c : Config} {s : Settings} :
    c.settings = .ok s ↔ Settings.ofValue c.root = .ok s := by
  unfold settings
  cases Settings.ofValue c.root with
  | error e => exact ⟨nofun, nofun⟩
  | ok s' =>
    constructor <;>
      · intro h
        exact congrArg Except.ok (Except.ok.inj h)

end Egress
