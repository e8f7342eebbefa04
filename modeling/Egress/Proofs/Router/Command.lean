import Egress.Router.Transport

/-!
# Which commands can be rendered

Rendering looks at the values of variables only to copy them, so whether it fails, and how, depends
on which names are defined and on nothing else (`render_eq_error_iff`). Every state of the tunnel
defines the same four names; a command that cannot be rendered for one transport cannot be rendered
for any other (`command_eq_error_iff`).
-/

set_option autoImplicit false

namespace Egress

/-- Results that fail for the same reasons are both good or both not. -/
theorem ok_iff_of_error_iff {ε α : Type} {x y : Except ε α}
    (h : ∀ e, x = .error e ↔ y = .error e) : (∃ a, x = .ok a) ↔ ∃ a, y = .ok a := by
  cases hx : x with
  | error e => rw [(h e).1 hx]
  | ok a =>
    cases hy : y with
    | error e => rw [(h e).2 hy] at hx; cases hx
    | ok b => exact ⟨fun _ => ⟨b, rfl⟩, fun _ => ⟨a, rfl⟩⟩

namespace Template

/-- The same names are defined. -/
def Variables.SameNames (v w : Variables) : Prop :=
  ∀ name, (v name).isSome = (w name).isSome

theorem Variables.ofList_isSome (entries : List (String × String)) (name : String) :
    (Variables.ofList entries name).isSome = decide (name ∈ entries.map Prod.fst) := by
  rw [Bool.eq_iff_iff]
  simp [Variables.ofList, List.find?_isSome]

theorem Variables.sameNames_ofList {es fs : List (String × String)}
    (h : es.map Prod.fst = fs.map Prod.fst) :
    Variables.SameNames (Variables.ofList es) (Variables.ofList fs) := by
  intro name
  rw [Variables.ofList_isSome, Variables.ofList_isSome, h]

section
variable {v w : Variables} (hn : v.SameNames w)
include hn

theorem fill_eq_error_iff (p : Part) (e : RenderError) :
    p.fill v = .error e ↔ p.fill w = .error e := by
  cases p with
  | literal cs => rfl
  | opened offset => rfl
  | hole name =>
    have h := hn name
    cases hv : v name <;> cases hw : w name <;> simp_all [Part.fill]

theorem fillAll_eq_error_iff (ps : List Part) (e : RenderError) :
    fillAll v ps = .error e ↔ fillAll w ps = .error e := by
  induction ps with
  | nil => rfl
  | cons p ps ih =>
    have hp := fill_eq_error_iff hn p
    cases h₁ : p.fill v with
    | error e₁ =>
      have h₂ : p.fill w = .error e₁ := (hp e₁).1 h₁
      simp [fillAll, h₁, h₂, bind, Except.bind]
    | ok x =>
      cases h₂ : p.fill w with
      | error e₂ => simp [(hp e₂).2 h₂] at h₁
      | ok y =>
        cases h₃ : fillAll v ps <;> cases h₄ : fillAll w ps <;>
          simp_all [fillAll, bind, Except.bind]

/-- Whether and how rendering fails depends on the defined names alone. -/
theorem render_eq_error_iff (template : String) (e : RenderError) :
    render v template = .error e ↔ render w template = .error e := by
  have h := fillAll_eq_error_iff hn (parts 0 template.toList) e
  unfold render
  cases h₁ : fillAll v (parts 0 template.toList) <;>
    cases h₂ : fillAll w (parts 0 template.toList) <;> simp_all [Except.map]

end

end Template

/-- A command is what its template gives in some state of the tunnel. -/
def CommandOf (template command : String) : Prop :=
  ∃ s : TunnelState, Template.render s.templateVariables template = .ok command

namespace Transport

theorem commandOf {t : Transport} {template command : String}
    (h : t.command template = .ok command) : CommandOf template command := by
  refine ⟨t.commandState, ?_⟩
  unfold Transport.command at h
  cases hr : Template.render t.commandState.templateVariables template with
  | error e =>
    rw [hr] at h
    cases h
  | ok c =>
    rw [hr] at h
    exact congrArg Except.ok (Except.ok.inj h)

/-- The variables of a vendor's configuration for an exit. -/
def exitVariables (vendor exit : String) : Template.Variables :=
  .ofList [("VpnServer", exit), ("Vendor", vendor)]

/-- The variables of a command for a selection, when the last health check ended in a given way. -/
def selectionVariables (s : Selection) (c : Connectivity) : Template.Variables :=
  .ofList [("Vendor", s.vendor), ("Exit", s.exit), ("Connected", c.label),
    ("ExitPath", "/".intercalate s.path)]

theorem command_of_selection {t : Transport} {s : Selection} (h : t.selection = some s)
    (template : String) :
    t.command template
      = (Template.render (selectionVariables s t.lastProbe) template).mapError .render := by
  obtain ⟨vendor, exit, path⟩ := s
  simp only [command, commandState, h]
  rfl

theorem sameNames_commandState (t t' : Transport) :
    t.commandState.templateVariables.SameNames t'.commandState.templateVariables :=
  Template.Variables.sameNames_ofList rfl

/-- Whether a command can be rendered is the same for all transports, and so is the reason why
not. -/
theorem command_eq_error_iff (t t' : Transport) (template : String) (e : TransportError) :
    t.command template = .error e ↔ t'.command template = .error e := by
  have h := Template.render_eq_error_iff (sameNames_commandState t t') template
  unfold command
  cases h₁ : Template.render t.commandState.templateVariables template with
  | error e₁ => rw [(h e₁).1 h₁]
  | ok x =>
    cases h₂ : Template.render t'.commandState.templateVariables template with
    | error e₂ => rw [(h e₂).2 h₂] at h₁; cases h₁
    | ok y => exact ⟨nofun, nofun⟩

end Transport

end Egress
