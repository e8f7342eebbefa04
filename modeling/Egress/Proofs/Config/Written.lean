import Egress.Proofs.Config.Bounds
import Egress.Proofs.Config.Defaults
import Egress.Proofs.Document.Table
import Egress.Proofs.Text.Octal

/-!
# Settings written and read back

Each group of the settings is written to a table whose keys are distinct and whose entries are
accepted, so it can be read, and it can only be read as it was (`Field.readGroup_ordered`). What is
written has all keys of the built-in document, which therefore does not show through it
(`Config.overDefaults_toTable`). With the numbers below the bounds of their fields, as all settings
of a configuration have them, both ways to read the table lead back to the settings
(`Config.settings_round_trip`).
-/

set_option autoImplicit false

namespace Egress

open Document

/-! ## Groups of fields -/

theorem forall_mem_optionalEntry {key : String} {Q : String × Value → Prop}
    (h : ∀ text, Q (key, .text text)) (o : Option String) : ∀ e ∈ optionalEntry key o, Q e := by
  cases o with
  | none => exact nofun
  | some text => exact List.forall_mem_singleton.2 (h text)

namespace Field

variable {σ α : Type} {fields : List (Field σ)} {start s : σ} {m : Table} {key : String}

/-- What a group of fields reads from a table: from each entry what its field makes of it, and
without an entry nothing. -/
structure ReadsAs (fields : List (Field σ)) (start : σ) (m : Table) (s : σ) : Prop where
  given {α : Type} {key : String} {reader : Value → Except FieldError α} {part : σ → α}
    (hfield : Holds fields key reader part) {v : Value} (hv : Keyed.get? key m = some v) :
    reader v = .ok (part s)
  missing {α : Type} {key : String} {reader : Value → Except FieldError α} {part : σ → α}
    (hfield : Holds fields key reader part) (hone : ∀ f ∈ fields, f.key = key → f.spellings = [])
    (hv : Keyed.get? key m = none) : part s = part start

theorem ReadsAs.part_eq {reader : Value → Except FieldError α} {part : σ → α} {v : Value} {a : α}
    (h : ReadsAs fields start m s) (hfield : Holds fields key reader part)
    (hv : Keyed.get? key m = some v) (ha : reader v = .ok a) : part s = a :=
  Except.ok.inj ((h.given hfield hv).symm.trans ha)

theorem ReadsAs.optional_eq {part : σ → Option String} {o : Option String}
    (h : ReadsAs fields start m s)
    (hfield : Holds fields key (fun v => (readText v).map some) part)
    (hone : ∀ f ∈ fields, f.key = key → f.spellings = []) (hstart : part start = none)
    (hv : Keyed.get? key m = o.map .text) : part s = o := by
  cases o with
  | none => exact (h.missing hfield hone hv).trans hstart
  | some text => exact h.part_eq hfield hv rfl

theorem accepts_optionalEntry {part : σ → Option String}
    (h : Holds fields key (fun v => (readText v).map some) part) (o : Option String) :
    ∀ e ∈ optionalEntry key o, Accepts fields e.1 e.2 :=
  forall_mem_optionalEntry (fun _ => h.accepts rfl) o

/-- A table of accepted entries with distinct keys is read, as the one thing it can be read as. -/
theorem readGroup_ordered {group : String} (hd : (Keyed.keys m).Nodup)
    (haccepts : ∀ e ∈ m, Accepts fields e.1 e.2) (hs : ∀ s', ReadsAs fields start m s' → s' = s) :
    readGroup group fields start (.table (Keyed.ordered m)) = .ok s := by
  obtain ⟨s', hs'⟩ := readEntries_total (s := start)
    (Keyed.nodup_of_ascending (Keyed.ascending_ordered m)) (fun _ _ => List.not_mem_nil)
    fun e he => haccepts e (Keyed.mem_of_mem_ordered he)
  have hreads : ReadsAs fields start m s' :=
    ⟨fun hfield _ hv => hfield.of_get? ((Keyed.get?_ordered hd _).trans hv) hs',
      fun hfield hone hv => hfield.of_absent hone ((Keyed.get?_ordered hd _).trans hv) hs'⟩
  exact hs s' hreads ▸ hs'

end Field

/-! ## Values of fields -/

theorem readNatural_of_lt {expected : String} {bound n : Nat} (h : n < bound) :
    readNatural expected bound (.integer n) = .ok n :=
  readNatural_eq_ok_iff.2 ⟨rfl, h⟩

theorem readTexts_map_text (names : List String) :
    readTexts (.list (names.map .text)) = .ok names := by
  rw [readTexts]
  induction names with
  | nil => rfl
  | cons name names ih =>
    rw [List.map_cons, List.mapM_cons, ih]
    rfl

theorem readFileMode_octal {n : Nat} (h : n < bound32) :
    readFileMode (.text (Text.octal n)) = .ok n := by
  rw [readFileMode, readFileMode.ofText, Text.trim_octal, Text.octal?_octal h]

/-! ## The settings -/

attribute [ext] CheckSettings ListenSettings RouterSettings Settings

variable {I : Int → Prop}

theorem CheckSettings.ofValue_toTable (s : CheckSettings) : ofValue (.table s.toTable) = .ok s := by
  obtain ⟨hcommand, hpattern⟩ := fields_hold
  refine Field.readGroup_ordered (by simp [Keyed.keys]) ?_ fun s' h => ?_
  · simp only [List.forall_mem_cons]
    exact ⟨hcommand.accepts rfl, hpattern.accepts rfl, List.forall_mem_nil _⟩
  · exact CheckSettings.ext (h.part_eq hcommand rfl rfl) (h.part_eq hpattern rfl rfl)

theorem ListenSettings.ofValue_toTable (s : ListenSettings) :
    ofValue (.table s.toTable) = .ok s := by
  obtain ⟨haddress, hhttp, hhttps⟩ := fields_hold
  obtain ⟨huser, hpassword⟩ := optional_fields_hold
  refine Field.readGroup_ordered ?_ ?_ fun s' h => ?_
  · cases s.username <;> cases s.password <;> simp [Keyed.keys, optionalEntry]
  · simp only [List.forall_mem_append, List.forall_mem_cons]
    exact ⟨⟨⟨haddress.accepts rfl, hhttp.accepts rfl, hhttps.accepts rfl, List.forall_mem_nil _⟩,
      Field.accepts_optionalEntry huser _⟩, Field.accepts_optionalEntry hpassword _⟩
  · ext1
    · exact h.part_eq haddress rfl rfl
    · exact h.part_eq hhttp rfl rfl
    · exact h.part_eq hhttps rfl rfl
    · refine h.optional_eq huser (by decide) rfl ?_
      cases s.username <;> cases s.password <;> rfl
    · refine h.optional_eq hpassword (by decide) rfl ?_
      cases s.username <;> cases s.password <;> rfl

theorem RouterSettings.ofValue_toTable {s : RouterSettings} (hs : s.Sound I) :
    ofValue (.table s.toTable) = .ok s := by
  obtain ⟨hmode, hfile, hstart, hstop, hstatus, hwait, hhost, hport, huser⟩ := fields_hold
  obtain ⟨hbits, hcheck⟩ := mode_and_check_hold
  have hbits' := readFileMode_octal hs.config_mode
  have hwait' : readNatural "u64" bound64 (.integer s.waitSeconds) = .ok s.waitSeconds :=
    readNatural_of_lt hs.wait_seconds.1
  have hport' : readNatural "u16" bound16 (.integer s.port) = .ok s.port :=
    readNatural_of_lt hs.port.1
  refine Field.readGroup_ordered ?_ ?_ fun s' h => ?_
  · cases s.password <;> simp [Keyed.keys, optionalEntry]
  · simp only [List.forall_mem_append, List.forall_mem_cons]
    refine ⟨⟨hmode.accepts rfl, hfile.accepts rfl, hbits.accepts hbits', hstart.accepts rfl,
      hstop.accepts rfl, hstatus.accepts rfl, hcheck.accepts s.check.ofValue_toTable,
      hwait.accepts hwait', hhost.accepts rfl, hport.accepts hport', huser.accepts rfl,
      List.forall_mem_nil _⟩, Field.accepts_optionalEntry password_holds _⟩
  · ext1
    · exact h.part_eq hmode rfl rfl
    · exact h.part_eq hfile rfl rfl
    · exact h.part_eq hbits rfl hbits'
    · exact h.part_eq hstart rfl rfl
    · exact h.part_eq hstop rfl rfl
    · exact h.part_eq hstatus rfl rfl
    · exact h.part_eq hcheck rfl s.check.ofValue_toTable
    · exact h.part_eq hwait rfl hwait'
    · exact h.part_eq hhost rfl rfl
    · exact h.part_eq hport rfl hport'
    · exact h.part_eq huser rfl rfl
    · refine h.optional_eq password_holds (by decide) rfl ?_
      cases s.password <;> rfl

theorem Settings.ofValue_toValue {s : Settings} (hs : s.Sound I) : ofValue s.toValue = .ok s := by
  obtain ⟨hvendors, hlisten, hrouter⟩ := fields_hold
  have hinterval : readNatural "u64" bound64 (.integer s.refreshInterval) = .ok s.refreshInterval :=
    readNatural_of_lt hs.refresh_interval.1
  have hrouter' := RouterSettings.ofValue_toTable hs.router
  refine Field.readGroup_ordered (by simp [Keyed.keys]) ?_ fun s' h => ?_
  · simp only [List.forall_mem_cons]
    exact ⟨hvendors.accepts (readTexts_map_text _), interval_holds.accepts hinterval,
      hlisten.accepts s.listen.ofValue_toTable, hrouter.accepts hrouter', List.forall_mem_nil _⟩
  · ext1
    · exact h.part_eq hvendors rfl (readTexts_map_text _)
    · exact h.part_eq interval_holds rfl hinterval
    · exact h.part_eq hlisten rfl s.listen.ofValue_toTable
    · exact h.part_eq hrouter rfl hrouter'

/-! ## What settings are written as -/

/-- How settings stand in a value: the interval in seconds, the permission bits as octal text, the
text that a health check looks for under a name of its own, and no option that is not set. -/
structure Settings.WrittenAs (s : Settings) (v : Value) : Prop where
  vendors : v.at? ["vendors"] = some (.list (s.vendors.map .text))
  refresh_interval : v.at? ["refresh_interval"] = some (.integer s.refreshInterval)
  config_mode : v.at? ["router", "config_mode"] = some (.text (Text.octal s.router.configMode))
  pattern : v.at? ["router", "check", "match"] = some (.text s.router.check.pattern)
  router_password : v.at? ["router", "password"] = s.router.password.map .text
  username : v.at? ["listen", "username"] = s.listen.username.map .text
  password : v.at? ["listen", "password"] = s.listen.password.map .text

theorem at?_ordered {m : Table} (hd : (Keyed.keys m).Nodup) (key : String) (path : List String) :
    (Value.table (Keyed.ordered m)).at? (key :: path)
      = (Keyed.get? key m).bind (Value.at? · path) := by
  rw [Value.at?_cons, Value.child?, Keyed.get?_ordered hd]

theorem CheckSettings.at?_match (s : CheckSettings) :
    (Value.table s.toTable).at? ["match"] = some (.text s.pattern) :=
  at?_ordered (by simp [Keyed.keys]) "match" []

theorem ListenSettings.at?_login (s : ListenSettings) :
    (Value.table s.toTable).at? ["username"] = s.username.map .text ∧
    (Value.table s.toTable).at? ["password"] = s.password.map .text := by
  obtain ⟨m, hm, hd, huser, hpassword⟩ : ∃ m, s.toTable = Keyed.ordered m ∧
      (Keyed.keys m).Nodup ∧ Keyed.get? "username" m = s.username.map .text ∧
      Keyed.get? "password" m = s.password.map .text := by
    refine ⟨_, rfl, ?_⟩
    cases s.username <;> cases s.password <;> exact ⟨by simp [Keyed.keys, optionalEntry], rfl, rfl⟩
  rw [hm, at?_ordered hd, at?_ordered hd, huser, hpassword]
  simp

theorem RouterSettings.at?_toTable (s : RouterSettings) :
    (Value.table s.toTable).at? ["config_mode"] = some (.text (Text.octal s.configMode)) ∧
    (Value.table s.toTable).at? ["check", "match"] = some (.text s.check.pattern) ∧
    (Value.table s.toTable).at? ["password"] = s.password.map .text := by
  obtain ⟨m, hm, hd, hmode, hcheck, hpassword⟩ : ∃ m, s.toTable = Keyed.ordered m ∧
      (Keyed.keys m).Nodup ∧ Keyed.get? "config_mode" m = some (.text (Text.octal s.configMode)) ∧
      Keyed.get? "check" m = some (.table s.check.toTable) ∧
      Keyed.get? "password" m = s.password.map .text := by
    refine ⟨_, rfl, ?_⟩
    cases s.password <;> exact ⟨by simp [Keyed.keys, optionalEntry], rfl, rfl, rfl⟩
  rw [hm, at?_ordered hd, at?_ordered hd, at?_ordered hd, hmode, hcheck, hpassword]
  exact ⟨rfl, s.check.at?_match, by simp⟩

theorem Settings.writtenAs (s : Settings) : s.WrittenAs s.toValue := by
  obtain ⟨m, hm, hd, hvendors, hinterval, hlisten, hrouter⟩ : ∃ m, s.toTable = Keyed.ordered m ∧
      (Keyed.keys m).Nodup ∧ Keyed.get? "vendors" m = some (.list (s.vendors.map .text)) ∧
      Keyed.get? "refresh_interval" m = some (.integer s.refreshInterval) ∧
      Keyed.get? "listen" m = some (.table s.listen.toTable) ∧
      Keyed.get? "router" m = some (.table s.router.toTable) :=
    ⟨_, rfl, by simp [Keyed.keys], rfl, rfl, rfl, rfl⟩
  obtain ⟨hbits, hmatch, hsecret⟩ := s.router.at?_toTable
  obtain ⟨huser, hpassword⟩ := s.listen.at?_login
  rw [toValue, hm]
  constructor
  · rw [at?_ordered hd, hvendors]
    rfl
  · rw [at?_ordered hd, hinterval]
    rfl
  · rw [at?_ordered hd, hrouter]
    exact hbits
  · rw [at?_ordered hd, hrouter]
    exact hmatch
  · rw [at?_ordered hd, hrouter]
    exact hsecret
  · rw [at?_ordered hd, hlisten]
    exact huser
  · rw [at?_ordered hd, hlisten]
    exact hpassword

/-- A property of texts, of integers that satisfy a predicate, and of what is made of values that
have it: lists, and tables whose entries were put in order. -/
structure Inherited (I : Int → Prop) (Q : Value → Prop) : Prop where
  text (s : String) : Q (.text s)
  integer {n : Int} (h : I n) : Q (.integer n)
  list {items : List Value} (h : ∀ v ∈ items, Q v) : Q (.list items)
  table {m : Table} (h : ∀ e ∈ m, Q e.2) : Q (.table (Keyed.ordered m))

namespace Inherited

theorem integers : Inherited I (Value.Integers I) :=
  ⟨.text, .integer, .list, fun h => .table fun e he => h e (Keyed.mem_of_mem_ordered he)⟩

theorem ordered : Inherited I Value.Ordered :=
  ⟨fun _ => trivial, fun _ => trivial, ordered_list_iff.2, fun {m} h =>
    ordered_table_iff.2 ⟨Keyed.ascending_ordered m, fun e he => h e (Keyed.mem_of_mem_ordered he)⟩⟩

variable {Q : Value → Prop} (hQ : Inherited I Q)
include hQ

theorem check (s : CheckSettings) : Q (.table s.toTable) := by
  refine hQ.table ?_
  simp only [List.forall_mem_cons]
  exact ⟨hQ.text _, hQ.text _, List.forall_mem_nil _⟩

theorem listen {s : ListenSettings} (hs : s.Sound I) : Q (.table s.toTable) := by
  refine hQ.table ?_
  simp only [List.forall_mem_append, List.forall_mem_cons]
  exact ⟨⟨⟨hQ.text _, hQ.integer hs.http, hQ.integer hs.https, List.forall_mem_nil _⟩,
    forall_mem_optionalEntry hQ.text _⟩, forall_mem_optionalEntry hQ.text _⟩

theorem router {s : RouterSettings} (hs : s.Sound I) : Q (.table s.toTable) := by
  refine hQ.table ?_
  simp only [List.forall_mem_append, List.forall_mem_cons]
  exact ⟨⟨hQ.text _, hQ.text _, hQ.text _, hQ.text _, hQ.text _, hQ.text _, hQ.check s.check,
    hQ.integer hs.wait_seconds.2, hQ.text _, hQ.integer hs.port.2, hQ.text _,
    List.forall_mem_nil _⟩, forall_mem_optionalEntry hQ.text _⟩

theorem settings {s : Settings} (hs : s.Sound I) : Q s.toValue := by
  refine hQ.table ?_
  simp only [List.forall_mem_cons]
  exact ⟨hQ.list (List.forall_mem_map.2 fun name _ => hQ.text name),
    hQ.integer hs.refresh_interval.2, hQ.listen hs.listen, hQ.router hs.router,
    List.forall_mem_nil _⟩

end Inherited

/-! ## Over the defaults -/

namespace Config

theorem merge_defaultListen (s : ListenSettings) : merge defaultListen s.toTable = s.toTable := by
  refine merge_ordered_eq_self (by decide) (by simp [Keyed.keys, defaultListen]) ?_
  simp only [List.forall_mem_append, List.forall_mem_cons]
  exact ⟨⟨⟨rfl, rfl, rfl, List.forall_mem_nil _⟩, forall_mem_optionalEntry (fun _ => rfl) _⟩,
    forall_mem_optionalEntry (fun _ => rfl) _⟩

theorem merge_defaultRouter (s : RouterSettings) : merge defaultRouter s.toTable = s.toTable := by
  refine merge_ordered_eq_self (by decide) (by simp [Keyed.keys, defaultRouter]) ?_
  simp only [List.forall_mem_append, List.forall_mem_cons]
  exact ⟨⟨rfl, rfl, rfl, rfl, rfl, rfl, rfl, rfl, rfl, rfl, rfl, List.forall_mem_nil _⟩,
    forall_mem_optionalEntry (fun _ => rfl) _⟩

/-- Settings are written with the first spelling. -/
theorem respell_toTable (s : Settings) : respell s.toTable = s.toTable := by
  have hrouter : Keyed.get? "router" s.toTable = some (.table s.router.toTable) :=
    (Keyed.get?_ordered (by simp [Keyed.keys]) "router").trans rfl
  have huser : Keyed.mem "user" s.router.toTable = true :=
    Keyed.isSome_get?_iff.2 (Keyed.mem_keys_ordered_iff.2 (by simp [Keyed.keys]))
  rw [respell, hrouter]
  simp only [respellRouter, if_pos huser]
  exact Keyed.insert_of_get? (Keyed.ascending_ordered _) hrouter

/-- The built-in document does not show through settings that are laid over it. -/
theorem overDefaults_toTable (s : Settings) : overDefaults s.toTable = ⟨s.toValue⟩ := by
  rw [overDefaults, respell_toTable]
  refine congrArg (fun es => (⟨.table es⟩ : Config)) (merge_ordered_eq_self (by decide) ?_ ?_)
  · simp [Keyed.keys, defaultTable]
  · simp only [List.forall_mem_cons]
    exact ⟨rfl, rfl, congrArg Value.table (merge_defaultListen s.listen),
      congrArg Value.table (merge_defaultRouter s.router), List.forall_mem_nil _⟩

/-! ## There and back -/

variable {c : Config} {s : Settings}

/-- The integers that a document can hold. -/
def Fits64 (n : Int) : Prop :=
  Text.minInteger ≤ n ∧ n ≤ Text.maxInteger

theorem fits64_of_small (n : Int) (h : -1 ≤ n) (h' : n ≤ 8000) : Fits64 n := by
  simp only [Fits64, Text.minInteger, Text.maxInteger]
  omega

/-- The settings of a configuration are written to a table that a document can hold, with the
interval in seconds and the permission bits as octal text, and are read back from it as they were,
whether it stands alone or is laid over the built-in document. Permission bits of 32 bits are read
back from their octal text. -/
theorem settings_round_trip (h : c.settings = .ok s) :
    s.WrittenAs s.toValue ∧ s.toValue.Ordered ∧
    (c.root.Integers Fits64 → s.toValue.Integers Fits64) ∧
    (⟨s.toValue⟩ : Config).settings = .ok s ∧
    (overDefaults s.toTable).settings = .ok s ∧
    (∀ text, read text = .ok s.toTable → ∃ c', parse text = .ok c' ∧ c'.settings = .ok s) ∧
    ∀ n < bound32, readFileMode (.text (Text.octal n)) = .ok n := by
  have hbounds : s.Sound fun _ => True :=
    sound_of_settings (.default fun _ _ _ => trivial) (fun _ _ => trivial) h
  have hback : (⟨s.toValue⟩ : Config).settings = .ok s :=
    settings_eq_ok_iff.2 (Settings.ofValue_toValue hbounds)
  have hover : (overDefaults s.toTable).settings = .ok s := by
    rw [overDefaults_toTable, hback]
  refine ⟨s.writtenAs, Inherited.ordered.settings hbounds, fun hroot => ?_, hback, hover,
    fun text hread => ?_, fun n => readFileMode_octal⟩
  · exact Inherited.integers.settings (sound_of_settings (.default fits64_of_small) hroot h)
  · exact ⟨_, by rw [parse, hread], hover⟩

/-- A router whose configuration is for its owner only. -/
def samplePrivateRouter : Config :=
  ⟨.table [("router", .table [("config_mode", .integer 384), ("password", .text "secret"),
    ("username", .text "root")])]⟩

/-- Its settings. -/
def samplePrivateSettings : Settings :=
  { router := { configMode := 0o600, user := "root", password := some "secret" } }

theorem settings_round_trip_sample :
    samplePrivateRouter.settings = .ok samplePrivateSettings ∧
      samplePrivateSettings.toValue.Integers Fits64 ∧
      samplePrivateSettings.toValue.at? ["router", "config_mode"] = some (.text "0600") ∧
      samplePrivateSettings.toValue.at? ["listen", "password"] = none ∧
      (⟨samplePrivateSettings.toValue⟩ : Config).settings = .ok samplePrivateSettings ∧
      (overDefaults samplePrivateSettings.toTable).settings = .ok samplePrivateSettings ∧
      readFileMode (.text "0600") = .ok 0o600 := by
  have h : samplePrivateRouter.settings = .ok samplePrivateSettings := rfl
  have hroot : samplePrivateRouter.root.Integers Fits64 := by
    refine .table (List.forall_mem_singleton.2 (.table ?_))
    simp only [List.forall_mem_cons]
    exact ⟨.integer (fits64_of_small 384 (by decide) (by decide)), .text _, .text _,
      List.forall_mem_nil _⟩
  obtain ⟨hwritten, -, hintegers, hback, hover, -, hmode⟩ := settings_round_trip h
  exact ⟨h, hintegers hroot, hwritten.config_mode, hwritten.password, hback, hover,
    hmode 0o600 (by decide)⟩

end Config

end Egress
