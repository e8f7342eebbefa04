/-!
# Channels

A channel holds the current value of something that is replaced as a whole from time to time, and
counts the replacements. A subscription remembers the count it has accounted for; polling it reports
a change at most once however many replacements there were, and the end of the channel only after
the last change was reported. Looking at the value accounts for nothing.
-/

set_option autoImplicit false

namespace Egress

/-- The current value of something. -/
structure Channel (α : Type) where
  value : α
  /-- How often the value was replaced. -/
  version : Nat := 0
  /-- Whether nothing will replace the value any more. -/
  closed : Bool := false

/-- How far someone has followed a channel. -/
structure Subscription where
  /-- The version accounted for. -/
  seen : Nat
  deriving DecidableEq, Repr

/-- What a subscriber learns. -/
inductive News where
  /-- The value was replaced since. -/
  | changed
  /-- Nothing happened yet. -/
  | pending
  /-- Nothing happened and nothing will. -/
  | closed
  deriving DecidableEq, Repr

namespace Channel

variable {α : Type}

/-- Replaces the value by what the function makes of it. -/
def modify (f : α → α) (c : Channel α) : Channel α :=
  { c with value := f c.value, version := c.version + 1 }

/-- Replaces the value. -/
def send (value : α) (c : Channel α) : Channel α :=
  c.modify fun _ => value

/-- The channel at its end. -/
def close (c : Channel α) : Channel α :=
  { c with closed := true }

/-- A subscription that has accounted for everything so far. -/
def subscribe (c : Channel α) : Subscription :=
  ⟨c.version⟩

/-- What a subscription has not accounted for, and the subscription when that is reported. -/
def poll (c : Channel α) (s : Subscription) : News × Subscription :=
  if s.seen < c.version then (.changed, c.subscribe)
  else if c.closed then (.closed, s)
  else (.pending, s)

end Channel

end Egress
