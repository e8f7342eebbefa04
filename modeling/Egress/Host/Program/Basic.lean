import Egress.Text.Raw

/-!
# What programs leave behind

The outcome of a program: two streams of bytes and how it ended.
-/

set_option autoImplicit false

namespace Egress.Host

/-- What a program left behind. -/
structure Outcome where
  output : List UInt8 := []
  errors : List UInt8 := []
  /-- The exit status; none if the program was killed. -/
  status : Option Nat := some 0
  deriving DecidableEq, Repr

/-- The outcome of writing a text of bytes. -/
def Outcome.say (text : String) : Outcome :=
  { output := Text.Raw.toBytes text }

/-- The outcome of a complaint. -/
def Outcome.complain (text : String) (status : Nat) : Outcome :=
  { errors := Text.Raw.toBytes text, status := some status }

end Egress.Host
