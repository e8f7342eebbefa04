import Egress.Channel

/-!
# Broadcasts

A channel with its readers. While the channel is open its value can be replaced and readers can join,
who have then accounted for everything so far. A reader can be copied and asked for news at any time.
-/

set_option autoImplicit false

namespace Egress

/-- A channel and its readers, in the order in which they came. -/
structure Broadcast (α : Type) where
  channel : Channel α
  readers : List Subscription := []

namespace Broadcast

variable {α : Type}

/-- The broadcast of a first value, with one reader. -/
def start (value : α) : Broadcast α :=
  { channel := { value }, readers := [⟨0⟩] }

/-- Replaces the value by what the function makes of it, while the channel is open. -/
def update? (f : α → α) (b : Broadcast α) : Option (Broadcast α) :=
  if b.channel.closed then none else some { b with channel := b.channel.modify f }

/-- The value as the writer sees it, while the channel is open. -/
def snapshot? (b : Broadcast α) : Option α :=
  if b.channel.closed then none else some b.channel.value

/-- Adds a reader. -/
def add (b : Broadcast α) (s : Subscription) : Broadcast α :=
  { b with readers := b.readers ++ [s] }

/-- Adds a reader that has accounted for everything so far, while the channel is open. -/
def join? (b : Broadcast α) : Option (Broadcast α) :=
  if b.channel.closed then none else some (b.add b.channel.subscribe)

/-- Adds a reader that has accounted for what another one has. -/
def copy? (b : Broadcast α) (k : Nat) : Option (Broadcast α) :=
  (b.readers[k]?).map b.add

/-- What a reader has not accounted for; it has then. -/
def poll? (b : Broadcast α) (k : Nat) : Option (News × Broadcast α) :=
  (b.readers[k]?).map fun s =>
    let (news, s) := b.channel.poll s
    (news, { b with readers := b.readers.set k s })

/-- The broadcast when nothing will replace the value any more. -/
def close (b : Broadcast α) : Broadcast α :=
  { b with channel := b.channel.close }

end Broadcast

end Egress
