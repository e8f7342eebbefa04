import Egress.Host.Shell.Session

/-!
# Evaluators

What words become on the way, and how the commands and words inside others are evaluated: by an
`Evaluator`, which every rule takes as an argument and which ties the rules together in the end.
-/

set_option autoImplicit false

namespace Egress.Host.Shell

/-- Where a character of a word comes from. -/
inductive Origin where
  | script
  | quoted
  | value
  deriving DecidableEq, Repr

/-- An element of what a word becomes. -/
inductive Glyph where
  | char (c : Char) (origin : Origin)
  /-- Quotes, which make a field even of nothing. -/
  | quotes
  /-- The end of a field. -/
  | cut
  deriving DecidableEq, Repr

/-- How commands and words inside a word are evaluated. -/
structure Evaluator where
  /-- Runs a command, whose failure is looked at (`tested`) or not. -/
  command : (tested : Bool) → Command → Run Unit
  /-- The glyphs of a word whose plain text has an origin. -/
  word : Origin → Word → Run (List Glyph)

end Egress.Host.Shell
