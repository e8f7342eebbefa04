import Egress.Text.Piece

/-!
# Failures

Why a command of the program failed, as its operator is told: a wording and those of what lies
behind it, outermost first.
-/

set_option autoImplicit false

namespace Egress

/-- Why a command failed. -/
structure Failure where
  message : String
  causes : List String := []
  deriving DecidableEq, Repr

namespace Failure

/-- The same failure in the context of what was being done. -/
def within (context : String) (f : Failure) : Failure :=
  ⟨context, f.message :: f.causes⟩

/-- The wordings, outermost first. -/
def chain (f : Failure) : List String :=
  f.message :: f.causes

/-- The text with something in front of its first line and of every other one. -/
def indentLines (first others : String) (text : String) : String :=
  first ++ ("\n" ++ others).intercalate ((Text.pieces '\n' text.toList).map String.ofList)

/-- A cause with its number. -/
def numbered (n : Nat) (text : String) : String :=
  indentLines ("    " ++ toString n ++ ": ") "       " text

/-- What the operator is told: the wording, and below it the causes, with numbers if there are
several. -/
def report (f : Failure) : String :=
  "Error: " ++ f.message ++ (match f.causes with
    | [] => ""
    | [cause] => "\n\nCaused by:\n" ++ indentLines "    " "    " cause
    | causes =>
      "\n\nCaused by:\n" ++ "\n".intercalate ((List.range causes.length).zipWith numbered causes))
    ++ "\n"

end Failure

end Egress
