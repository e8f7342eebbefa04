/-!
# Searching a text

Whether a text occurs in another, anywhere; the empty text occurs in every text
(`occursIn_iff`).
-/

set_option autoImplicit false

namespace Egress.Text

/-- Whether the first text occurs in the second. -/
def occursIn (pattern : List Char) : List Char → Bool
  | [] => pattern.isEmpty
  | c :: cs => pattern.isPrefixOf (c :: cs) || occursIn pattern cs

theorem occursIn_iff {pattern cs : List Char} : occursIn pattern cs = true ↔ pattern <:+: cs := by
  induction cs with
  | nil => cases pattern <;> simp [occursIn]
  | cons c cs ih => simp [occursIn, ih, List.infix_cons_iff]

end Egress.Text
