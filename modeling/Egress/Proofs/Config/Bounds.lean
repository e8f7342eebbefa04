import Egress.Proofs.Config.Fields

/-!
# The numbers in settings

What every field of a group keeps, reading the group keeps (`Field.readGroup_keeps`). So the numbers
in settings stay below the bounds of their fields, and the integers among them are integers of the
value they were read from, unless they are defaults (`Config.sound_of_settings`).
-/

set_option autoImplicit false

namespace Egress

namespace Document.Value

/-- The value is another or stands somewhere in it. -/
inductive Within (w : Value) : Value → Prop
  | here : Within w w
  | item {items : List Value} {v : Value} (hv : v ∈ items) (h : Within w v) :
      Within w (.list items)
  | entry {es : Table} {e : String × Value} (he : e ∈ es) (h : Within w e.2) :
      Within w (.table es)

/-- All integers in the value satisfy a predicate. -/
def Integers (I : Int → Prop) (v : Value) : Prop :=
  ∀ n, Within (.integer n) v → I n

variable {I : Int → Prop}

theorem Integers.integer {n : Int} (h : I n) : (Value.integer n).Integers I := by
  intro m hm
  cases hm
  exact h

theorem Integers.text (s : String) : (Value.text s).Integers I := by
  intro n hn
  cases hn

theorem Integers.list {items : List Value} (h : ∀ v ∈ items, v.Integers I) :
    (Value.list items).Integers I := by
  intro n hn
  cases hn with
  | item hv hn => exact h _ hv n hn

theorem Integers.table {es : Table} (h : ∀ e ∈ es, e.2.Integers I) :
    (Value.table es).Integers I := by
  intro n hn
  cases hn with
  | entry he hn => exact h _ he n hn

end Document.Value

open Document

/-! ## Reading groups -/

namespace Field

variable {σ α : Type} {fields : List (Field σ)} {I : Int → Prop} {P : σ → Prop}

/-- Fields that keep a property when the integers in the values they read satisfy a predicate. -/
def Keep (I : Int → Prop) (P : σ → Prop) (fields : List (Field σ)) : Prop :=
  ∀ f ∈ fields, ∀ v, v.Integers I → ∀ s s', P s → f.read v s = .ok s' → P s'

theorem readEntries_keeps (hf : Keep I P fields) {seen : List String} {s s' : σ} {es : Table}
    (hes : ∀ e ∈ es, e.2.Integers I) (hs : P s) (h : readEntries fields seen s es = .ok s') :
    P s' := by
  induction es generalizing seen s with
  | nil =>
    obtain rfl := Except.ok.inj h
    exact hs
  | cons e rest ih =>
    obtain ⟨k, v⟩ := e
    have hrest := fun e he => hes e (List.mem_cons_of_mem _ he)
    rcases readEntries_cons h with ⟨-, h⟩ | ⟨f, hmem, -, -, s₁, hread, h⟩
    · exact ih hrest hs h
    · exact ih hrest (hf f hmem v (hes _ List.mem_cons_self) s s₁ hs hread) h

theorem readItems_keeps (hf : Keep I P fields) {length : Nat} {s s' : σ} {items : List Value}
    (hitems : ∀ v ∈ items, v.Integers I) (hs : P s)
    (h : readItems length fields s items = .ok s') : P s' := by
  induction fields generalizing s items with
  | nil =>
    cases items with
    | nil =>
      obtain rfl := Except.ok.inj h
      exact hs
    | cons v rest => cases h
  | cons f fields ih =>
    cases items with
    | nil =>
      obtain rfl := Except.ok.inj h
      exact hs
    | cons v rest =>
      rw [readItems] at h
      split at h
      · cases h
      · rename_i s₁ hread
        refine ih (fun g hg => hf g (List.mem_cons_of_mem _ hg))
          (fun w hw => hitems w (List.mem_cons_of_mem _ hw)) ?_ h
        exact hf f List.mem_cons_self v (hitems v List.mem_cons_self) s s₁ hs hread

theorem readGroup_keeps (hf : Keep I P fields) {group : String} {v : Value} {s s' : σ}
    (hv : v.Integers I) (hs : P s) (h : readGroup group fields s v = .ok s') : P s' := by
  cases v with
  | table es => exact readEntries_keeps hf (fun e he n hn => hv n (.entry he hn)) hs h
  | list items => exact readItems_keeps hf (fun w hw n hn => hv n (.item hw hn)) hs h
  | _ => cases h

/-- A field that puts what it reads in its place keeps a property if the outcome has it. -/
theorem keeps_map {reader : Value → Except FieldError α} {put : σ → α → σ}
    (h : ∀ v a s, v.Integers I → reader v = .ok a → P s → P (put s a)) :
    ∀ v, v.Integers I → ∀ s s', P s → (reader v).map (put s) = .ok s' → P s' := by
  intro v hv s s' hs hr
  obtain ⟨a, ha, rfl⟩ := map_eq_ok.1 hr
  exact h v a s hv ha hs

end Field

/-! ## Numbers -/

section
variable {I : Int → Prop} {v : Value}

theorem integer_of_readInteger {n : Int} (hv : v.Integers I) (h : readInteger v = .ok n) :
    I n := by
  obtain rfl := readInteger_eq_ok_iff.1 h
  exact hv n .here

theorem bound_of_readNatural {expected : String} {bound n : Nat} (hv : v.Integers I)
    (h : readNatural expected bound v = .ok n) : n < bound ∧ I n := by
  obtain ⟨rfl, hlt⟩ := readNatural_eq_ok_iff.1 h
  exact ⟨hlt, hv n .here⟩

theorem readFileMode_lt {n : Nat} (h : readFileMode v = .ok n) : n < bound32 := by
  have htext {s : String} (h : readFileMode.ofText s = .ok n) : n < bound32 := by
    rw [readFileMode.ofText] at h
    split at h
    · rename_i m hm
      obtain rfl := Except.ok.inj h
      simpa [bound32] using (Option.filter_eq_some_iff.1 hm).2
    · cases h
  cases v with
  | integer m =>
    rw [readFileMode] at h
    split at h
    · rename_i hm
      obtain rfl := Except.ok.inj h
      obtain ⟨hnonneg, hlt⟩ : 0 ≤ m ∧ m < bound32 := by simpa using hm
      omega
    · cases h
  | text s => exact htext h
  | datetime s => exact htext h
  | _ => cases h

end

/-! ## The settings -/

/-- The ports of the listener satisfy a predicate. -/
structure ListenSettings.Sound (I : Int → Prop) (s : ListenSettings) : Prop where
  http : I s.http
  https : I s.https

/-- The numbers of the router are below their bounds, and those that are integers satisfy a
predicate. -/
structure RouterSettings.Sound (I : Int → Prop) (s : RouterSettings) : Prop where
  config_mode : s.configMode < bound32
  wait_seconds : s.waitSeconds < bound64 ∧ I s.waitSeconds
  port : s.port < bound16 ∧ I s.port

/-- The numbers of the settings are below their bounds, and those that are integers satisfy a
predicate. -/
structure Settings.Sound (I : Int → Prop) (s : Settings) : Prop where
  refresh_interval : s.refreshInterval < bound64 ∧ I s.refreshInterval
  listen : s.listen.Sound I
  router : s.router.Sound I

variable {I : Int → Prop}

theorem ListenSettings.fields_keep : Field.Keep I (Sound I) fields := by
  simp only [Field.Keep, fields, List.forall_mem_cons]
  refine ⟨?_, ?http, ?https, ?_, ?_, List.forall_mem_nil _⟩
  case http => exact Field.keeps_map fun v n s hv hr hs => ⟨integer_of_readInteger hv hr, hs.https⟩
  case https => exact Field.keeps_map fun v n s hv hr hs => ⟨hs.http, integer_of_readInteger hv hr⟩
  all_goals exact Field.keeps_map fun _ _ _ _ _ hs => ⟨hs.http, hs.https⟩

theorem RouterSettings.fields_keep : Field.Keep I (Sound I) fields := by
  simp only [Field.Keep, fields, List.forall_mem_cons]
  refine ⟨?_, ?_, ?mode, ?_, ?_, ?_, ?_, ?wait, ?_, ?port, ?_, ?_, List.forall_mem_nil _⟩
  case mode =>
    exact Field.keeps_map fun _ _ _ _ hr hs => ⟨readFileMode_lt hr, hs.wait_seconds, hs.port⟩
  case wait =>
    exact Field.keeps_map fun _ _ _ hv hr hs =>
      ⟨hs.config_mode, bound_of_readNatural hv hr, hs.port⟩
  case port =>
    exact Field.keeps_map fun _ _ _ hv hr hs =>
      ⟨hs.config_mode, hs.wait_seconds, bound_of_readNatural hv hr⟩
  all_goals
    exact Field.keeps_map fun _ _ _ _ _ hs => ⟨hs.config_mode, hs.wait_seconds, hs.port⟩

theorem Settings.fields_keep (hlisten : ({} : ListenSettings).Sound I)
    (hrouter : ({} : RouterSettings).Sound I) : Field.Keep I (Sound I) fields := by
  simp only [Field.Keep, fields, List.forall_mem_cons]
  refine ⟨?vendors, ?interval, ?listen, ?router, List.forall_mem_nil _⟩
  case vendors =>
    exact Field.keeps_map fun _ _ _ _ _ hs => ⟨hs.refresh_interval, hs.listen, hs.router⟩
  case interval =>
    exact Field.keeps_map fun _ _ _ hv hr hs => ⟨bound_of_readNatural hv hr, hs.listen, hs.router⟩
  case listen =>
    exact Field.keeps_map fun _ _ _ hv hr hs =>
      ⟨hs.refresh_interval, Field.readGroup_keeps ListenSettings.fields_keep hv hlisten hr,
        hs.router⟩
  case router =>
    exact Field.keeps_map fun _ _ _ hv hr hs =>
      ⟨hs.refresh_interval, hs.listen,
        Field.readGroup_keeps RouterSettings.fields_keep hv hrouter hr⟩

/-- The integers among the defaults lie between the ports of the listener. -/
theorem Settings.Sound.default (h : ∀ n, -1 ≤ n → n ≤ 8000 → I n) : ({} : Settings).Sound I := by
  have hinteger (n : Int) (hn : -1 ≤ n ∧ n ≤ 8000) : I n := h n hn.1 hn.2
  exact ⟨⟨by decide, hinteger _ (by decide)⟩, ⟨hinteger _ (by decide), hinteger _ (by decide)⟩,
    ⟨by decide, ⟨by decide, hinteger _ (by decide)⟩, ⟨by decide, hinteger _ (by decide)⟩⟩⟩

namespace Config

variable {c : Config} {s : Settings}

/-- The numbers in settings are those of the configuration, or defaults. -/
theorem sound_of_settings (hdefault : ({} : Settings).Sound I) (hroot : c.root.Integers I)
    (h : c.settings = .ok s) : s.Sound I :=
  Field.readGroup_keeps (Settings.fields_keep hdefault.listen hdefault.router) hroot hdefault
    (settings_eq_ok_iff.1 h)

end Config

end Egress
