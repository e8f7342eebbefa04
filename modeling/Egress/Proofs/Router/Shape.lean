import Egress.Proofs.Except
import Egress.Proofs.Router.Command
import Egress.Proofs.Template.Scan

/-!
# The shape of a command

A command can name four variables (`CommandVariable`). A template whose holes are all closed and name
some of these is a `CommandShape`: texts with values between them. What is rendered from it has the
same texts for every transport, and only the values differ (`command_template`); every other template
fails for every transport, and always in the same way (`commands_alike`).
-/

set_option autoImplicit false

namespace Egress

open Template Text

/-! ## Variables -/

/-- The variables of commands. -/
inductive CommandVariable where
  | vendor
  | exit
  | connected
  | exitPath
  deriving DecidableEq, Repr

namespace CommandVariable

def name : CommandVariable → String
  | vendor => "Vendor"
  | exit => "Exit"
  | connected => "Connected"
  | exitPath => "ExitPath"

/-- Without a selection there is no vendor, no exit and no path. -/
def value (t : Transport) : CommandVariable → String
  | vendor => (t.selection.map Selection.vendor).getD ""
  | exit => (t.selection.map Selection.exit).getD ""
  | connected => t.lastProbe.label
  | exitPath => "/".intercalate ((t.selection.map Selection.path).getD [])

theorem templateVariables_name (t : Transport) (v : CommandVariable) :
    t.commandState.templateVariables v.name = some (v.value t) := by
  obtain ⟨router, templates, selection, lastProbe⟩ := t
  cases selection <;> cases v <;> rfl

theorem templateVariables_eq_none (t : Transport) {name : String}
    (h : ∀ v : CommandVariable, v.name ≠ name) : t.commandState.templateVariables name = none := by
  have hnames : name ∉ ["Vendor", "Exit", "Connected", "ExitPath"] := by
    simp only [List.mem_cons, List.not_mem_nil, or_false, not_or]
    exact ⟨(h vendor).symm, (h exit).symm, (h connected).symm, (h exitPath).symm⟩
  rw [← Option.not_isSome_iff_eq_none, TunnelState.templateVariables, Variables.ofList_isSome]
  simpa using hnames

end CommandVariable

/-! ## Shapes -/

/-- A template that makes a command: a text, or a text up to a hole with a shape behind it. -/
inductive CommandShape where
  | text (cs : List Char) (clear : ¬ Doubled '\x7b' cs)
  | hole (before inside : List Char) (v : CommandVariable)
      (clear : ¬ Doubled '\x7b' (before ++ ['\x7b'])) (closed : ¬ Doubled '\x7d' (inside ++ ['\x7d']))
      (names : holeName inside = v.name) (after : CommandShape)

namespace CommandShape

def chars : CommandShape → List Char
  | text cs _ => cs
  | hole before inside _ _ _ _ after => before ++ Template.hole inside ++ after.chars

/-- The texts with the values of a transport between them. -/
def filledChars (t : Transport) : CommandShape → List Char
  | text cs _ => cs
  | hole before _ v _ _ _ after => before ++ (v.value t).toList ++ after.filledChars t

def template (shape : CommandShape) : String :=
  String.ofList shape.chars

def filled (shape : CommandShape) (t : Transport) : String :=
  String.ofList (shape.filledChars t)

theorem renderAt_chars (t : Transport) (shape : CommandShape) (offset : Nat) :
    renderAt t.commandState.templateVariables offset shape.chars = .ok (shape.filledChars t) := by
  induction shape generalizing offset with
  | text cs clear => exact renderAt_text clear
  | hole before inside v clear closed names after ih =>
    have hvalue : t.commandState.templateVariables (holeName inside) = some (v.value t) := by
      rw [names, v.templateVariables_name t]
    rw [chars, renderAt_filled clear closed hvalue, ih]
    rfl

/-- A template is a shape, or the same is wrong with it for every transport. -/
theorem exists_chars_or_error (offset : Nat) (cs : List Char) :
    (∃ shape : CommandShape, shape.chars = cs) ∨
      ∃ e, ∀ t : Transport, renderAt t.commandState.templateVariables offset cs = .error e := by
  induction layout cs generalizing offset with
  | text h => exact .inl ⟨.text _ h, rfl⟩
  | opened hbefore hrest => exact .inr ⟨_, fun t => renderAt_opened hbefore hrest⟩
  | @hole before inside after hbefore hinside _ ih =>
    by_cases hnames : ∃ v : CommandVariable, v.name = holeName inside
    · obtain ⟨v, hv⟩ := hnames
      rcases ih (offset + byteLength before + byteLength (Template.hole inside)) with
        ⟨shape, hshape⟩ | ⟨e, he⟩
      · exact .inl ⟨.hole before inside v hbefore hinside hv.symm shape, by rw [chars, hshape]⟩
      · refine .inr ⟨e, fun t => ?_⟩
        have hvalue : t.commandState.templateVariables (holeName inside) = some (v.value t) := by
          rw [← hv, v.templateVariables_name t]
        rw [renderAt_filled hbefore hinside hvalue, he t]
        rfl
    · have hnone (t : Transport) : t.commandState.templateVariables (holeName inside) = none :=
        CommandVariable.templateVariables_eq_none t fun v hv => hnames ⟨v, hv⟩
      exact .inr ⟨_, fun t => renderAt_unset hbefore hinside (hnone t)⟩

end CommandShape

namespace Transport

theorem command_eq (t : Transport) (template : String) :
    t.command template = ((renderAt t.commandState.templateVariables 0 template.toList).map
      String.ofList).mapError .render := rfl

theorem command_template (t : Transport) (shape : CommandShape) :
    t.command shape.template = .ok (shape.filled t) := by
  rw [command_eq, CommandShape.template, String.toList_ofList, shape.renderAt_chars]
  rfl

/-- Whether a template makes a command is the same for all transports. If it does, the commands have
the same texts in the same order and differ in the values between them; if it does not, the fault is
the same. -/
theorem commands_alike (template : String) :
    (∃ shape : CommandShape, shape.template = template ∧
      ∀ t : Transport, t.command template = .ok (shape.filled t)) ∨
    ((¬ ∃ shape : CommandShape, shape.template = template) ∧
      ∃ e, ∀ t : Transport, t.command template = .error (.render e)) := by
  by_cases hshape : ∃ shape : CommandShape, shape.template = template
  · obtain ⟨shape, rfl⟩ := hshape
    exact .inl ⟨shape, rfl, fun t => t.command_template shape⟩
  · refine .inr ⟨hshape, ?_⟩
    rcases CommandShape.exists_chars_or_error 0 template.toList with ⟨shape, hchars⟩ | ⟨e, he⟩
    · have htemplate : shape.template = template := by
        rw [CommandShape.template, hchars, String.ofList_toList]
      exact absurd ⟨shape, htemplate⟩ hshape
    · refine ⟨e, fun t => ?_⟩
      rw [command_eq, he t]
      rfl

end Transport

end Egress
