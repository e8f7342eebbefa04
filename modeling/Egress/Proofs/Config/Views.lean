import Egress.Proofs.Config.Defaults
import Egress.Proofs.Config.Fields

/-!
# Two readings of one configuration

The listener, the router and the vendors are read twice: by dotted path, value for value, and as
settings, field for field. Both readings show the same (`parse_shows`), whether a value comes
from the text, from the built-in document or from the second spelling of the router's user, with one
exception: a date counts as a text in the settings and not at its path
(`date_read_once`). A field that the built-in document does not have is read by its path exactly if
it is set.
-/

set_option autoImplicit false

namespace Egress

open Document

/-- Whether a value is a date. -/
def Document.Value.isDate : Value → Bool
  | .datetime _ => true
  | _ => false

namespace Config

variable {σ α : Type} {c : Config} {path : String}

/-! ## Values of both readings -/

/-- The text at a path is that of a field, but if it is the text of a date there is none at the
path. -/
def ShowsText (c : Config) (path field : String) : Prop :=
  c.string? path = some field ∨ c.get? path = some (.datetime field) ∧ c.string? path = none

/-- The text that a field reads is the value's own, except that a date has none. -/
theorem scalarText?_of_readText {v : Value} {field : String} (hr : readText v = .ok field) :
    v.scalarText? = if v.isDate then none else some field := by
  cases v with
  | text t =>
    obtain rfl := Except.ok.inj hr
    rfl
  | datetime t => rfl
  | _ => cases hr

theorem showsText_of_readText {v : Value} {field : String} (hv : c.get? path = some v)
    (hr : readText v = .ok field) : c.ShowsText path field := by
  cases v with
  | text t =>
    obtain rfl := Except.ok.inj hr
    left
    rw [string?, hv]
    rfl
  | datetime t =>
    obtain rfl := Except.ok.inj hr
    right
    exact ⟨hv, by rw [string?, hv]; rfl⟩
  | _ => cases hr

theorem integer?_of_readInteger {v : Value} {n : Int} (hv : c.get? path = some v)
    (hr : readInteger v = .ok n) : c.integer? path = some n := by
  obtain rfl := readInteger_eq_ok_iff.1 hr
  rw [integer?, hv]

theorem integer?_of_readNatural {v : Value} {expected : String} {bound n : Nat}
    (hv : c.get? path = some v) (hr : readNatural expected bound v = .ok n) :
    c.integer? path = some (n : Int) := by
  obtain ⟨rfl, -⟩ := readNatural_eq_ok_iff.1 hr
  rw [integer?, hv]

/-- Values configured as vendors. -/
def vendorItems (c : Config) : List Value :=
  match c.get? "vendors" with
  | some (.list items) => items
  | _ => []

/-- The vendors are the names read from the items, less those that come from dates. -/
structure ShowsVendors (c : Config) (names : List String) : Prop where
  one_each : names.length = c.vendorItems.length
  undated : c.vendors = ((c.vendorItems.zip names).filter (!·.1.isDate)).map Prod.snd
  all : c.vendors = names ↔ ∀ v ∈ c.vendorItems, v.isDate = false

/-- Items read as texts one by one, and their own texts: the same, but for dates. -/
theorem readTexts_undated {items : List Value} {names : List String}
    (h : items.mapM readText = .ok names) :
    names.length = items.length ∧
      items.filterMap Value.scalarText? =
        ((items.zip names).filter (!·.1.isDate)).map Prod.snd ∧
      (items.filterMap Value.scalarText? = names ↔ ∀ v ∈ items, v.isDate = false) := by
  induction items generalizing names with
  | nil =>
    obtain rfl := Except.ok.inj h
    simp
  | cons v items ih =>
    rw [List.mapM_cons, bind_eq_ok] at h
    obtain ⟨name, hname, h⟩ := h
    obtain ⟨names, hnames, h⟩ := bind_eq_ok.1 h
    obtain rfl := Except.ok.inj h
    obtain ⟨hlength, hundated, hall⟩ := ih hnames
    have hown : v.scalarText? = if v.isDate then none else some name :=
      scalarText?_of_readText hname
    cases hdate : v.isDate with
    | false =>
      rw [hdate, if_neg Bool.false_ne_true] at hown
      rw [List.filterMap_cons_some hown]
      refine ⟨by simp [hlength], by simp [hdate, hundated], ?_⟩
      simp [hdate, hall]
    | true =>
      rw [hdate, if_pos rfl] at hown
      -- one text fewer than names, whatever the other items are
      have hfewer : items.filterMap Value.scalarText? ≠ name :: names := by
        intro heq
        have hle := List.length_filterMap_le Value.scalarText? items
        rw [heq, List.length_cons, hlength] at hle
        omega
      rw [List.filterMap_cons_none hown]
      refine ⟨by simp [hlength], by simp [hdate, hundated], ?_⟩
      simp [hfewer, hdate]

/-! ## Groups of fields in a configuration -/

/-- A group of fields has its entries in the configuration, and they have been taken over. -/
structure Taken (c : Config) (group : String) (fields : List (Field σ)) (start : σ) (es : Table)
    (s : σ) : Prop where
  entries : c.root.child? group = some (.table es)
  taken : Field.readEntries fields [] start es = .ok s

namespace Taken

variable {group key : String} {fields : List (Field σ)} {start s : σ} {es : Table}
  {reader : Value → Except FieldError α} {part : σ → α}

theorem get? (h : c.Taken group fields start es s) (hpath : segments path = [group, key]) :
    c.get? path = Keyed.get? key es := by
  rw [Config.get?, hpath, Value.at?_cons, h.entries, Option.bind_some, Value.at?_singleton,
    Value.child?]

theorem reads (h : c.Taken group fields start es s) (hpath : segments path = [group, key])
    (hfield : Field.Holds fields key reader part) {v : Value} (hv : c.get? path = some v) :
    reader v = .ok (part s) :=
  hfield.of_get? ((h.get? hpath).symm.trans hv) h.taken

/-- A field whose path leads nowhere has its default. -/
theorem unset (h : c.Taken group fields start es s) (hpath : segments path = [group, key])
    (hfield : Field.Holds fields key reader part)
    (hone : ∀ f ∈ fields, f.key = key → f.spellings = []) (hmem : c.mem path = false) :
    c.get? path = none ∧ part s = part start := by
  have hnone : c.get? path = none := Option.isNone_iff_eq_none.1 (by simpa [Config.mem] using hmem)
  exact ⟨hnone, hfield.of_absent hone ((h.get? hpath).symm.trans hnone) h.taken⟩

theorem mem (h : c.Taken group fields start es s) (hpath : segments path = [group, key])
    (hkey : key ∈ Keyed.keys es) : c.mem path = true := by
  rw [Config.mem, h.get? hpath]
  exact Keyed.isSome_get?_iff.2 hkey

theorem text {part : σ → String} (h : c.Taken group fields start es s)
    (hpath : segments path = [group, key]) (hfield : Field.Holds fields key readText part)
    (hmem : c.mem path = true) : c.ShowsText path (part s) := by
  obtain ⟨v, hv⟩ := Option.isSome_iff_exists.1 hmem
  exact showsText_of_readText hv (h.reads hpath hfield hv)

/-- A text that is set is shown, and one that is not has its default. -/
theorem text_or_unset {part : σ → String} (h : c.Taken group fields start es s)
    (hpath : segments path = [group, key]) (hfield : Field.Holds fields key readText part)
    (hone : ∀ f ∈ fields, f.key = key → f.spellings = []) :
    (c.mem path = true → c.ShowsText path (part s)) ∧
      (c.mem path = false → c.string? path = none ∧ part s = part start) := by
  refine ⟨h.text hpath hfield, fun hmem => ?_⟩
  obtain ⟨hnone, hdefault⟩ := h.unset hpath hfield hone hmem
  exact ⟨by rw [string?, hnone]; rfl, hdefault⟩

theorem integer {part : σ → Int} (h : c.Taken group fields start es s)
    (hpath : segments path = [group, key]) (hfield : Field.Holds fields key readInteger part)
    (hmem : c.mem path = true) : c.integer? path = some (part s) := by
  obtain ⟨v, hv⟩ := Option.isSome_iff_exists.1 hmem
  exact integer?_of_readInteger hv (h.reads hpath hfield hv)

theorem natural {part : σ → Nat} {expected : String} {bound : Nat}
    (h : c.Taken group fields start es s) (hpath : segments path = [group, key])
    (hfield : Field.Holds fields key (readNatural expected bound) part)
    (hmem : c.mem path = true) : c.integer? path = some (part s : Int) := by
  obtain ⟨v, hv⟩ := Option.isSome_iff_exists.1 hmem
  exact integer?_of_readNatural hv (h.reads hpath hfield hv)

end Taken

/-! ## Both readings -/

/-- A built-in group of fields is a table after loading too, with the built-in keys and those of
the text. -/
theorem group_loaded (group : String) {document base : Table}
    (hover : LaidOver defaults.root (.table document) c.root)
    (hbase : defaults.root.child? group = some (.table base))
    (htable : ∀ v, Keyed.get? group document = some v → v.shape = .table) :
    ∃ es, c.root.child? group = some (.table es) ∧ ∀ k ∈ Keyed.keys base, k ∈ Keyed.keys es := by
  cases hdoc : Keyed.get? group document with
  | none =>
    refine ⟨base, ?_, fun k hk => hk⟩
    rw [hover.child?_silent hdoc, hbase]
  | some v =>
    obtain ⟨es, rfl⟩ := Value.shape_eq_table_iff.1 (htable v hdoc)
    obtain ⟨es', hes', hkeys⟩ := hover.tables [group] es ((Value.at?_singleton _ group).trans hdoc)
    rw [Value.at?_singleton] at hes' hkeys
    exact ⟨es', hes', fun k hk => (hkeys k).2 (.inr ⟨base, hbase, hk⟩)⟩

theorem Respelled.router_table {document document' : Table} (h : Respelled document document')
    (htable : ∀ v, Keyed.get? "router" document = some v → v.shape = .table) :
    ∀ v, Keyed.get? "router" document' = some v → v.shape = .table := by
  intro v hv
  by_cases hmoved : ∃ router user, Keyed.get? "router" document = some (.table router) ∧
      Keyed.get? "user" router = none ∧ Keyed.get? "username" router = some user
  · obtain ⟨router, user, hrouter, huser, hname⟩ := hmoved
    obtain ⟨router', hrouter', -⟩ := h.moved router user hrouter huser hname
    obtain rfl := Option.some.inj (hrouter'.symm.trans hv)
    rfl
  · refine htable v ((h.kept fun router user hrouter huser hname => ?_).symm.trans hv)
    exact hmoved ⟨router, user, hrouter, huser, hname⟩

/-- Texts that the built-in document has. -/
def builtinTexts : List (String × (Settings → String)) :=
  [("listen.address", (·.listen.address)), ("router.mode", (·.router.mode)),
   ("router.host", (·.router.host)), ("router.user", (·.router.user))]

/-- Integers that the built-in document has. -/
def builtinIntegers : List (String × (Settings → Int)) :=
  [("listen.http", (·.listen.http)), ("listen.https", (·.listen.https)),
   ("router.port", (·.router.port))]

/-- Texts that the built-in document leaves to the settings. -/
def plainTexts : List (String × (Settings → String)) :=
  [("router.config_file", (·.router.configFile)), ("router.start_command", (·.router.startCommand)),
   ("router.stop_command", (·.router.stopCommand)),
   ("router.status_command", (·.router.statusCommand))]

/-- A configuration read by paths shows the settings. -/
structure Shows (c : Config) (s : Settings) : Prop where
  texts : ∀ e ∈ builtinTexts, c.ShowsText e.1 (e.2 s)
  integers : ∀ e ∈ builtinIntegers, c.integer? e.1 = some (e.2 s)
  plain_texts : ∀ e ∈ plainTexts,
    (c.mem e.1 = true → c.ShowsText e.1 (e.2 s)) ∧
      (c.mem e.1 = false → c.string? e.1 = none ∧ e.2 s = e.2 {})
  wait_seconds :
    (c.mem "router.wait_seconds" = true →
        c.integer? "router.wait_seconds" = some (s.router.waitSeconds : Int)) ∧
      (c.mem "router.wait_seconds" = false →
        c.integer? "router.wait_seconds" = none ∧
          s.router.waitSeconds = ({} : Settings).router.waitSeconds)
  vendors : c.ShowsVendors s.vendors

variable {s : Settings}

theorem settings_read {es : Table} (hroot : c.root = .table es) (hs : c.settings = .ok s) :
    Field.readEntries Settings.fields [] {} es = .ok s := by
  have hread := settings_eq_ok_iff.1 hs
  rwa [hroot] at hread

/-- A group of fields that the settings hold has been taken over from its table. -/
theorem taken_of_settings {group name : String} {fields : List (Field σ)} {start : σ}
    {part : Settings → σ} {es : Table}
    (hfield : Field.Holds Settings.fields group (Field.readGroup name fields start) part)
    (hs : c.settings = .ok s) (hes : c.root.child? group = some (.table es)) :
    c.Taken group fields start es (part s) := by
  refine ⟨hes, ?_⟩
  cases hroot : c.root with
  | table all =>
    rw [hroot] at hes
    exact hfield.of_get? hes (settings_read hroot hs)
  | _ =>
    rw [hroot] at hes
    cases hes

theorem showsVendors_of_settings {es : Table} (hroot : c.root = .table es)
    (hs : c.settings = .ok s) : c.ShowsVendors s.vendors := by
  obtain ⟨hfield, -, -⟩ := Settings.fields_hold
  have hr := settings_read hroot hs
  have hget : c.get? "vendors" = Keyed.get? "vendors" es := by
    have hpath : segments "vendors" = ["vendors"] := by decide
    rw [Config.get?, hpath, hroot, Value.at?_singleton, Value.child?]
  cases hv : Keyed.get? "vendors" es with
  | none =>
    have hempty : s.vendors = [] := hfield.of_absent (by decide) hv hr
    have hitems : c.vendorItems = [] := by rw [vendorItems, hget, hv]
    have hnone : c.vendors = [] := by
      rw [vendors, strings, hget, hv]
      rfl
    rw [hempty]
    constructor
    · rw [hitems]
      rfl
    · rw [hnone, hitems]
      rfl
    · rw [hnone, hitems]
      simp
  | some v =>
    have htexts : readTexts v = .ok s.vendors := hfield.of_get? hv hr
    cases v with
    | list items =>
      have hitems : c.vendorItems = items := by rw [vendorItems, hget, hv]
      have hnames : c.vendors = items.filterMap Value.scalarText? := by
        rw [vendors, strings, hget, hv]
        rfl
      obtain ⟨hlength, hundated, hall⟩ := readTexts_undated htexts
      rw [← hnames, ← hitems] at hundated hall
      exact ⟨by rw [hitems, hlength], hundated, hall⟩
    | _ => cases htexts

/-- Where both groups have been taken over from tables with the built-in keys, the paths show the
settings. -/
theorem shows_of_taken {les res : Table}
    (hl : c.Taken "listen" ListenSettings.fields {} les s.listen)
    (hlkeys : ∀ k ∈ Keyed.keys defaultListen, k ∈ Keyed.keys les)
    (hr : c.Taken "router" RouterSettings.fields {} res s.router)
    (hrkeys : ∀ k ∈ Keyed.keys defaultRouter, k ∈ Keyed.keys res)
    (hvendors : c.ShowsVendors s.vendors) : c.Shows s := by
  obtain ⟨haddress, hhttp, hhttps⟩ := ListenSettings.fields_hold
  obtain ⟨hmode, hfile, hstart, hstop, hstatus, hwait, hhost, hport, huser⟩ :=
    RouterSettings.fields_hold
  refine ⟨?_, ?_, ?_, ⟨hr.natural (by decide) hwait, fun hmem => ?_⟩, hvendors⟩ <;>
    simp only [builtinTexts, builtinIntegers, plainTexts, List.forall_mem_cons, List.not_mem_nil,
      false_imp_iff, implies_true, and_true]
  -- built-in keys are there whatever the text says, so the defaults of the settings play no part
  · refine ⟨?_, ?_, ?_, ?_⟩
    · exact hl.text (by decide) haddress (hl.mem (by decide) (hlkeys "address" (by decide)))
    · exact hr.text (by decide) hmode (hr.mem (by decide) (hrkeys "mode" (by decide)))
    · exact hr.text (by decide) hhost (hr.mem (by decide) (hrkeys "host" (by decide)))
    · exact hr.text (by decide) huser (hr.mem (by decide) (hrkeys "user" (by decide)))
  · refine ⟨?_, ?_, ?_⟩
    · exact hl.integer (by decide) hhttp (hl.mem (by decide) (hlkeys "http" (by decide)))
    · exact hl.integer (by decide) hhttps (hl.mem (by decide) (hlkeys "https" (by decide)))
    · exact hr.natural (by decide) hport (hr.mem (by decide) (hrkeys "port" (by decide)))
  · refine ⟨?_, ?_, ?_, ?_⟩
    · exact hr.text_or_unset (by decide) hfile (by decide)
    · exact hr.text_or_unset (by decide) hstart (by decide)
    · exact hr.text_or_unset (by decide) hstop (by decide)
    · exact hr.text_or_unset (by decide) hstatus (by decide)
  · obtain ⟨hnone, hdefault⟩ := hr.unset (by decide) hwait (by decide) hmem
    exact ⟨by rw [integer?, hnone], hdefault⟩

/-- Where the listener and the router are tables, a configuration that a text denotes shows at the
paths what the settings hold, dates apart. -/
theorem parse_shows {text : String} {document : Table} (hread : read text = .ok document)
    (hparse : parse text = .ok c)
    (hlisten : ∀ v, Keyed.get? "listen" document = some v → v.shape = .table)
    (hrouter : ∀ v, Keyed.get? "router" document = some v → v.shape = .table)
    (hs : c.settings = .ok s) : c.Shows s := by
  have ho := read_ordered hread
  obtain rfl : overDefaults document = c := by
    rw [parse, hread] at hparse
    exact Except.ok.inj hparse
  have hover := overDefaults_laidOver ho
  have hre := respell_respelled ho
  obtain ⟨-, hheld, hheld'⟩ := Settings.fields_hold
  obtain ⟨les, hles, hlkeys⟩ := group_loaded "listen" hover rfl fun v hv =>
    hlisten v ((hre.others "listen" (by decide)).symm.trans hv)
  obtain ⟨res, hres, hrkeys⟩ := group_loaded "router" hover rfl (hre.router_table hrouter)
  have hl := taken_of_settings hheld hs hles
  have hr := taken_of_settings hheld' hs hres
  exact shows_of_taken hl hlkeys hr hrkeys (showsVendors_of_settings rfl hs)

theorem parse_shows_sample :
    read sampleRouterText = .ok [("router", .table [("username", .text "root")])] ∧
      ∃ c s, parse sampleRouterText = .ok c ∧ c.settings = .ok s ∧ s.router.user = "root" ∧
        c.Shows s := by
  have hparse : parse sampleRouterText =
      .ok (overDefaults [("router", .table [("username", .text "root")])]) := by
    rw [parse, read_sampleRouterText]
  have hrouter (v : Value)
      (hv : Keyed.get? "router" [("router", .table [("username", .text "root")])] = some v) :
      v.shape = .table := by
    obtain rfl := Option.some.inj hv
    rfl
  have hlisten (v : Value)
      (hv : Keyed.get? "listen" [("router", .table [("username", .text "root")])] = some v) :
      v.shape = .table := by
    cases hv
  exact ⟨read_sampleRouterText, _, { router := { user := "root" } }, hparse, rfl, rfl,
    parse_shows read_sampleRouterText hparse hlisten hrouter rfl⟩

/-- A router whose user is a time. -/
def sampleTimeText : String :=
  "[router]\nuser = 07:32:00"

/-- The settings take a time for a name where there is no text at the path. -/
theorem date_read_once :
    read sampleTimeText = .ok [("router", .table [("user", .datetime "07:32:00")])] ∧
      ∃ c s, parse sampleTimeText = .ok c ∧ c.settings = .ok s ∧
        s.router.user = "07:32:00" ∧ c.string? "router.user" = none := by
  have hread : read sampleTimeText =
      .ok [("router", .table [("user", .datetime "07:32:00")])] := by
    have hchars : sampleTimeText.toList = ['[', 'r', 'o', 'u', 't', 'e', 'r', ']', '\n', 'u', 's', 'e',
        'r', ' ', '=', ' ', '0', '7', ':', '3', '2', ':', '0', '0'] := rfl
    rw [Document.read, hchars]
    rfl
  have hparse : parse sampleTimeText =
      .ok (overDefaults [("router", .table [("user", .datetime "07:32:00")])]) := by
    rw [parse, hread]
  exact ⟨hread, _, { router := { user := "07:32:00" } }, hparse, rfl, rfl, rfl⟩

end Config

end Egress
