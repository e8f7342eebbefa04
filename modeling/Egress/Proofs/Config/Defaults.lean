import Egress.Proofs.Document.Merge
import Egress.Proofs.Document.Read

/-!
# Configurations over the defaults

A text is read, the second spelling of the router's user is replaced by the first
(`Config.Respelled`), and the outcome is laid over the built-in values. So a configuration has what
its text says, and a built-in value exactly where the text says nothing (`Config.parse_laidOver`).
-/

set_option autoImplicit false

namespace Egress.Config

open Document

/-- The second document is the first with the router's `username` moved to `user`, where the router
is a table with the one and without the other. -/
structure Respelled (document document' : Table) : Prop where
  others : ∀ k, k ≠ "router" → Keyed.get? k document' = Keyed.get? k document
  moved : ∀ router user, Keyed.get? "router" document = some (.table router) →
    Keyed.get? "user" router = none → Keyed.get? "username" router = some user →
    ∃ router', Keyed.get? "router" document' = some (.table router') ∧
      ∀ k, Keyed.get? k router' =
        if k = "user" then some user else if k = "username" then none else Keyed.get? k router
  kept : (∀ router user, Keyed.get? "router" document = some (.table router) →
      Keyed.get? "user" router = none → Keyed.get? "username" router ≠ some user) →
    Keyed.get? "router" document' = Keyed.get? "router" document

theorem respellRouter_of_moved {router : Table} {user : Value}
    (huser : Keyed.get? "user" router = none) (hname : Keyed.get? "username" router = some user) :
    respellRouter router = Keyed.insert "user" user (Keyed.erase "username" router) := by
  simp [respellRouter, Keyed.mem, huser, hname]

theorem respellRouter_of_kept {router : Table}
    (h : Keyed.get? "user" router = none → ∀ user, Keyed.get? "username" router ≠ some user) :
    respellRouter router = router := by
  unfold respellRouter
  split
  · rfl
  · rename_i huser
    have hnone : Keyed.get? "user" router = none := by simpa [Keyed.mem] using huser
    split
    · rename_i user hname
      exact absurd hname (h hnone user)
    · rfl

theorem respell_respelled {document : Table} (ho : (Value.table document).Ordered) :
    Respelled document (respell document) := by
  constructor
  · intro k hk
    unfold respell
    split
    · rw [Keyed.get?_insert, if_neg (Ne.symm hk)]
    · rfl
  · intro router user hrouter huser hname
    have hd : (Keyed.keys router).Nodup :=
      (ordered_table_iff.1 (ho.child? hrouter)).1.imp String.ne_of_lt
    refine ⟨respellRouter router, ?_, fun k => ?_⟩
    · rw [respell, hrouter]
      exact (Keyed.get?_insert _ _ _ _).trans (if_pos rfl)
    · rw [respellRouter_of_moved huser hname, Keyed.get?_insert, Keyed.get?_erase hd]
      simp only [eq_comm (a := k)]
  · intro hkept
    unfold respell
    split
    · rename_i router hrouter
      rw [Keyed.get?_insert, if_pos rfl, hrouter,
        respellRouter_of_kept fun huser user => hkept router user hrouter huser]
    · rfl

theorem overDefaults_laidOver {document : Table} (ho : (Value.table document).Ordered) :
    LaidOver defaults.root (.table (respell document)) (overDefaults document).root :=
  overlay_laidOver (.table defaultTable) (respell_ordered ho)

/-- What a text says is laid over the built-in document, once the user is spelled in one way. -/
theorem parse_laidOver {text : String} {document : Table} (hread : read text = .ok document) :
    ∃ c, parse text = .ok c ∧ Respelled document (respell document) ∧
      LaidOver defaults.root (.table (respell document)) c.root := by
  have ho := read_ordered hread
  refine ⟨overDefaults document, ?_, respell_respelled ho, overDefaults_laidOver ho⟩
  rw [parse, hread]

/-- A router whose user has the second spelling. -/
def sampleRouterText : String :=
  "[router]\nusername = \"root\""

theorem read_sampleRouterText :
    read sampleRouterText = .ok [("router", .table [("username", .text "root")])] := by
  have hchars : sampleRouterText.toList = ['[', 'r', 'o', 'u', 't', 'e', 'r', ']', '\n', 'u', 's', 'e',
      'r', 'n', 'a', 'm', 'e', ' ', '=', ' ', '"', 'r', 'o', 'o', 't', '"'] := rfl
  rw [Document.read, hchars]
  rfl

theorem parse_laidOver_sample :
    read sampleRouterText = .ok [("router", .table [("username", .text "root")])] ∧
      ∃ c, parse sampleRouterText = .ok c ∧ c.root.at? ["router", "user"] = some (.text "root") ∧
        c.root.at? ["router", "port"] = some (.integer 22) := by
  obtain ⟨c, hc, -, hover⟩ := parse_laidOver read_sampleRouterText
  refine ⟨read_sampleRouterText, c, hc, ?_, ?_⟩
  · have hscalar : (Value.text "root").shape ≠ .table := by decide
    exact (hover.replaced _ ["router", "user"] _ (List.prefix_refl _) rfl hscalar).1
  · refine hover.silent ["router", "port"] (fun q v hq hv => ?_) rfl
    rcases List.prefix_cons_iff.1 hq with rfl | ⟨q', rfl, hq'⟩
    · obtain rfl := Option.some.inj hv
      rfl
    rcases List.prefix_cons_iff.1 hq' with rfl | ⟨q'', rfl, hq''⟩
    · obtain rfl := Option.some.inj hv
      rfl
    obtain rfl := List.prefix_nil.1 hq''
    cases hv

end Egress.Config
