import Egress.Proofs.Config.Fields
import Egress.Proofs.Document.Table

/-!
# What the settings depend on

The settings depend on the declared keys only: of the document on four keys, and inside the tables
of the listener, the router and the health check on the keys of their fields. Two documents that
agree on these (`Settings.Agree`) have the same settings, or the same first fault
(`Config.settings_of_agree`). So nothing that is configured for a vendor can be in the way of them.
-/

set_option autoImplicit false

namespace Egress

open Document

/-! ## Agreement -/

/-- Under each of the keys, both tables have nothing, or both have values that are alike. -/
def AgreeOn (keys : List String) (alike : String → Value → Value → Prop) (es es' : Table) : Prop :=
  ∀ k ∈ keys, Option.Rel (alike k) (Keyed.get? k es) (Keyed.get? k es')

theorem AgreeOn.imp {keys : List String} {alike alike' : String → Value → Value → Prop}
    {es es' : Table} (h : AgreeOn keys alike es es')
    (himp : ∀ k ∈ keys, ∀ v v', Keyed.get? k es = some v → Keyed.get? k es' = some v' →
      alike k v v' → alike' k v v') : AgreeOn keys alike' es es' := by
  intro k hk
  have hrel := h k hk
  cases hv : Keyed.get? k es with
  | none =>
    rw [hv] at hrel
    cases hv' : Keyed.get? k es' with
    | none => exact .none
    | some v' => simp [hv'] at hrel
  | some v =>
    cases hv' : Keyed.get? k es' with
    | none => simp [hv, hv'] at hrel
    | some v' =>
      rw [hv, hv'] at hrel
      cases hrel with
      | some halike => exact .some (himp k hk v v' hv hv' halike)

/-- The same value, or two tables that agree on the keys. -/
inductive AgreeIn (keys : List String) (alike : String → Value → Value → Prop) :
    Value → Value → Prop
  | same (v : Value) : AgreeIn keys alike v v
  | tables {es es' : Table} (h : AgreeOn keys alike es es') :
      AgreeIn keys alike (.table es) (.table es')

/-- Keys of the health check. -/
def CheckSettings.keys : List String :=
  ["command", "match"]

/-- Two values are alike as health checks. -/
def CheckSettings.Agree : Value → Value → Prop :=
  AgreeIn keys fun _ => Eq

/-- Keys of the listener. -/
def ListenSettings.keys : List String :=
  ["address", "http", "https", "username", "password"]

/-- Two values are alike as listeners. -/
def ListenSettings.Agree : Value → Value → Prop :=
  AgreeIn keys fun _ => Eq

/-- Keys of the router. The user has two. -/
def RouterSettings.keys : List String :=
  ["mode", "config_file", "config_mode", "start_command", "stop_command", "status_command", "check",
    "wait_seconds", "host", "port", "user", "username", "password"]

/-- Two values are alike as routers. -/
def RouterSettings.Agree : Value → Value → Prop :=
  AgreeIn keys fun k => if k = "check" then CheckSettings.Agree else Eq

/-- Keys of the settings. -/
def Settings.keys : List String :=
  ["vendors", "refresh_interval", "listen", "router"]

/-- Two tables are alike as settings. -/
def Settings.Agree : Table → Table → Prop :=
  AgreeOn keys fun k =>
    if k = "listen" then ListenSettings.Agree
    else if k = "router" then RouterSettings.Agree
    else Eq

/-! ## Groups of fields -/

namespace Field

variable {σ : Type} {fields : List (Field σ)} {seen keys : List String} {s : σ} {es es' : Table}
  {alike : String → Value → Value → Prop}

/-- The fields that answer to a key make the same of two values. -/
def ReadAlike (fields : List (Field σ)) (key : String) (v v' : Value) : Prop :=
  ∀ f ∈ fields, f.answers key = true → ∀ s, f.read v s = f.read v' s

/-- Entries that no field takes over could as well not be there. -/
theorem readEntries_filter (fields : List (Field σ)) (seen : List String) (s : σ) (es : Table) :
    readEntries fields seen s (es.filter fun e => (taker fields e.1).isSome) =
      readEntries fields seen s es := by
  induction es generalizing seen s with
  | nil => rfl
  | cons e rest ih =>
    obtain ⟨k, v⟩ := e
    cases hf : fields.find? (·.answers k) with
    | none =>
      rw [List.filter_cons_of_neg (by simp [taker, hf]), readEntries, hf, ih]
    | some f =>
      rw [List.filter_cons_of_pos (by simp [taker, hf]), readEntries, readEntries, hf]
      simp only [ih]

/-- Entry by entry, what is read alike gives the same outcome, and the same first fault. -/
theorem readEntries_congr
    (h : List.Forall₂ (fun e e' => e.1 = e'.1 ∧ ReadAlike fields e.1 e.2 e'.2) es es') :
    readEntries fields seen s es = readEntries fields seen s es' := by
  induction h generalizing seen s with
  | nil => rfl
  | @cons e e' rest rest' he _ ih =>
    obtain ⟨k, v⟩ := e
    obtain ⟨k', v'⟩ := e'
    obtain ⟨rfl, hread⟩ := he
    simp only [readEntries, ih]
    -- the keys are the same, so both entries go to the same field, if to any
    cases hf : fields.find? (·.answers k) with
    | none => rfl
    | some f =>
      have hanswers : f.answers k = true := by simpa using List.find?_some hf
      simp only [hread f (List.mem_of_find?_eq_some hf) hanswers]

theorem mem_of_answers {f : Field σ} {key : String} (h : f.answers key = true) :
    key ∈ f.key :: f.spellings := by
  rcases Bool.or_eq_true_iff.1 h with h | h
  · exact List.mem_cons.2 (.inl (of_decide_eq_true h).symm)
  · exact List.mem_cons_of_mem _ (List.contains_iff_mem.1 h)

/-- Only the entries with the keys of a group count, and of those only what its fields read. -/
theorem readEntries_agree (hkeys : ∀ f ∈ fields, ∀ k ∈ f.key :: f.spellings, k ∈ keys)
    (h : (Keyed.keys es).Pairwise (· < ·)) (h' : (Keyed.keys es').Pairwise (· < ·))
    (hagree : AgreeOn keys (ReadAlike fields) es es') :
    readEntries fields seen s es = readEntries fields seen s es' := by
  rw [← readEntries_filter fields seen s es, ← readEntries_filter fields seen s es']
  refine readEntries_congr (Keyed.forall₂_of_get? ?_ ?_ fun k => ?_)
  · exact h.sublist (List.filter_sublist.map Prod.fst)
  · exact h'.sublist (List.filter_sublist.map Prod.fst)
  · rw [Keyed.get?_filter (fun k => (taker fields k).isSome) k es,
      Keyed.get?_filter (fun k => (taker fields k).isSome) k es']
    split
    · rename_i hk
      rw [taker, Option.isSome_map] at hk
      obtain ⟨f, hf⟩ := Option.isSome_iff_exists.1 hk
      have hanswers : f.answers k = true := by simpa using List.find?_some hf
      exact hagree k (hkeys f (List.mem_of_find?_eq_some hf) k (mem_of_answers hanswers))
    · exact .none

/-- A group of fields reads the same from values that agree in its keys. -/
theorem readGroup_agree {group : String} {v v' : Value}
    (hkeys : ∀ f ∈ fields, ∀ k ∈ f.key :: f.spellings, k ∈ keys)
    (halike : ∀ k ∈ keys, ∀ v v', v.Ordered → v'.Ordered → alike k v v' →
      ReadAlike fields k v v')
    (ho : v.Ordered) (ho' : v'.Ordered) (h : AgreeIn keys alike v v') :
    readGroup group fields s v = readGroup group fields s v' := by
  cases h with
  | same => rfl
  | tables h =>
    obtain ⟨hasc, hvalues⟩ := ordered_table_iff.1 ho
    obtain ⟨hasc', hvalues'⟩ := ordered_table_iff.1 ho'
    refine readEntries_agree hkeys hasc hasc' (h.imp fun k hk v v' hv hv' => ?_)
    exact halike k hk v v' (hvalues _ (Keyed.mem_of_get? hv)) (hvalues' _ (Keyed.mem_of_get? hv'))

theorem readAlike_of_eq {key : String} {v v' : Value} (h : v = v') : ReadAlike fields key v v' :=
  fun _ _ _ _ => by rw [h]

end Field

/-! ## The groups of the settings -/

theorem CheckSettings.ofValue_agree {v v' : Value} (ho : v.Ordered) (ho' : v'.Ordered)
    (h : Agree v v') : ofValue v = ofValue v' :=
  Field.readGroup_agree (by decide) (fun _ _ _ _ _ _ => Field.readAlike_of_eq) ho ho' h

theorem ListenSettings.ofValue_agree {v v' : Value} (ho : v.Ordered) (ho' : v'.Ordered)
    (h : Agree v v') : ofValue v = ofValue v' :=
  Field.readGroup_agree (by decide) (fun _ _ _ _ _ _ => Field.readAlike_of_eq) ho ho' h

theorem RouterSettings.ofValue_agree {v v' : Value} (ho : v.Ordered) (ho' : v'.Ordered)
    (h : Agree v v') : ofValue v = ofValue v' := by
  refine Field.readGroup_agree (by decide) (fun k _ v v' ho ho' h => ?_) ho ho' h
  split at h
  · rename_i hk
    subst hk
    have hcheck := CheckSettings.ofValue_agree ho ho' h
    simp [Field.ReadAlike, fields, Field.answers, hcheck]
  · exact Field.readAlike_of_eq h

theorem Settings.ofValue_agree {es es' : Table} (ho : (Value.table es).Ordered)
    (ho' : (Value.table es').Ordered) (h : Agree es es') :
    ofValue (.table es) = ofValue (.table es') := by
  refine Field.readGroup_agree (by decide) (fun k _ v v' ho ho' h => ?_) ho ho' (.tables h)
  split at h
  · rename_i hk
    subst hk
    have hlisten := ListenSettings.ofValue_agree ho ho' h
    simp [Field.ReadAlike, fields, Field.answers, hlisten]
  · split at h
    · rename_i hk
      subst hk
      have hrouter := RouterSettings.ofValue_agree ho ho' h
      simp [Field.ReadAlike, fields, Field.answers, hrouter]
    · exact Field.readAlike_of_eq h

theorem Settings.agree_of_get? {es es' : Table}
    (h : ∀ k ∈ keys, Keyed.get? k es = Keyed.get? k es') : Agree es es' := by
  intro k hk
  rw [h k hk]
  cases Keyed.get? k es' with
  | none => exact .none
  | some v =>
    refine .some ?_
    show (if k = "listen" then ListenSettings.Agree
      else if k = "router" then RouterSettings.Agree else Eq) v v
    split
    · exact .same v
    · split
      · exact .same v
      · rfl

namespace Config

/-- Documents that agree in what the settings declare have the same settings, or the same fault. A
section under any other key can be put in, changed and taken out without changing either. -/
theorem settings_of_agree {es : Table} (ho : (Value.table es).Ordered) :
    (∀ es', (Value.table es').Ordered → Settings.Agree es es' →
      (⟨.table es⟩ : Config).settings = (⟨.table es'⟩ : Config).settings) ∧
    ∀ key ∉ Settings.keys,
      (∀ v : Value, v.Ordered →
        (⟨.table (Keyed.insert key v es)⟩ : Config).settings = (⟨.table es⟩ : Config).settings) ∧
      (⟨.table (Keyed.erase key es)⟩ : Config).settings = (⟨.table es⟩ : Config).settings := by
  have hsame {es es' : Table} (ho : (Value.table es).Ordered) (ho' : (Value.table es').Ordered)
      (h : Settings.Agree es es') :
      (⟨.table es⟩ : Config).settings = (⟨.table es'⟩ : Config).settings := by
    rw [settings, settings, Settings.ofValue_agree ho ho' h]
  refine ⟨fun es' ho' => hsame ho ho', fun key hkey => ⟨fun v hv => ?_, ?_⟩⟩
  · refine hsame (ordered_insert ho hv) ho (Settings.agree_of_get? fun k hk => ?_)
    rw [Keyed.get?_insert, if_neg]
    rintro rfl
    exact hkey hk
  · refine hsame (ordered_erase ho key) ho (Settings.agree_of_get? fun k hk => ?_)
    refine Keyed.get?_erase_of_ne ?_ es
    rintro rfl
    exact hkey hk

/-- A document with a section that is no table and a router with a port that is no number. -/
def samplePlain : Table :=
  [("acme", .integer 3),
    ("router", .table [("check", .table [("command", .text "ping")]), ("port", .text "ssh")])]

/-- A document with other sections, and with further keys in its tables. -/
def sampleCrowded : Table :=
  [("acme", .list []), ("orion", .table [("port", .list [])]),
    ("router", .table [("check", .table [("command", .text "ping"), ("every", .integer 5)]),
      ("model", .boolean true), ("port", .text "ssh")])]

theorem settings_of_agree_sample :
    (Value.table samplePlain).Ordered ∧ (Value.table sampleCrowded).Ordered ∧
    Settings.Agree samplePlain sampleCrowded ∧
    (⟨.table sampleCrowded⟩ : Config).settings =
      .error (.field ⟨["router", "port"], .type (.text "ssh") "u16"⟩) := by
  have ho : (Value.table samplePlain).Ordered := by
    simp only [samplePlain, Value.Ordered, OrderedEntries]
    decide
  have ho' : (Value.table sampleCrowded).Ordered := by
    simp only [sampleCrowded, Value.Ordered, OrderedEntries, OrderedItems]
    decide
  have hagree : Settings.Agree samplePlain sampleCrowded := by
    have hcheck : CheckSettings.Agree (.table [("command", .text "ping")])
        (.table [("command", .text "ping"), ("every", .integer 5)]) :=
      .tables (by simp [AgreeOn, CheckSettings.keys, Keyed.get?])
    have hrouter : RouterSettings.Agree
        (.table [("check", .table [("command", .text "ping")]), ("port", .text "ssh")])
        (.table [("check", .table [("command", .text "ping"), ("every", .integer 5)]),
          ("model", .boolean true), ("port", .text "ssh")]) :=
      .tables (by simp [AgreeOn, RouterSettings.keys, Keyed.get?, hcheck])
    simpa [Settings.Agree, AgreeOn, Settings.keys, samplePlain, sampleCrowded, Keyed.get?]
      using hrouter
  exact ⟨ho, ho', hagree, ((settings_of_agree ho).1 sampleCrowded ho' hagree).symm.trans rfl⟩

end Config

end Egress
