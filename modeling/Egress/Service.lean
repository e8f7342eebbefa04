import Egress.Registry

/-!
# Refreshing in the background

A service keeps a registry together with what its refreshes need and with the time at which the next
one is due. Time is counted in milliseconds and moves in two ways: `sleep` goes from one due time to
the next, so that every refresh happens when it is due; `jump` moves the clock at once, so that the
refreshes missed on the way collapse into one, and the next is due an interval after the end. When
the first refresh is due must be a time that the machine's clock can show (`keepsTime`); a timer that
was set once counts on from there.
-/

set_option autoImplicit false

namespace Egress

/-- Who may refresh the registry. -/
inductive Refresher where
  /-- Nobody runs it; refreshes are made on request. -/
  | idle
  /-- It runs in the background and the next refresh is due at this time. -/
  | running (due : Nat)
  /-- It has ended, and with it the channels. -/
  | ended
  deriving DecidableEq, Repr

/-- A registry and what refreshes it. -/
structure Service where
  registry : Registry
  config : Config
  resolver : Resolver
  /-- Milliseconds between two refreshes. -/
  interval : Nat
  /-- Milliseconds that the machine's clock showed when the service was made; a machine takes a
  second at least to come up. -/
  clockStart : Nat := 1000
  /-- Milliseconds since the service was made. -/
  now : Nat := 0
  refresher : Refresher := .idle
  /-- Whether the background refresh was asked to end. -/
  cancelled : Bool := false

namespace Service

/-- Rebuilds the directories once. -/
def refresh (s : Service) : Report (Service × Nat) := do
  let (registry, replaced) ← s.registry.refresh s.config s.resolver
  pure ({ s with registry }, replaced)

/-- The service after its refresher has ended. -/
def stop (s : Service) : Service :=
  { s with registry := s.registry.close, refresher := .ended }

/-- The first time, in milliseconds, that a clock cannot show: one with 2^63 seconds. -/
def clockEnd : Nat := 9223372036854775808000

/-- What the machine's clock shows. -/
def clock (s : Service) : Nat :=
  s.clockStart + s.now

/-- Whether there is an interval, and the clock can show the time that is an interval ahead. -/
def keepsTime (s : Service) : Bool :=
  0 < s.interval && s.clock + s.interval < clockEnd

/-- Starts the background refresh, which ends at once when it was asked to already or when its first
refresh would be due at no time that the clock can show. -/
def start (s : Service) : Service :=
  if s.cancelled || !s.keepsTime then s.stop
  else { s with refresher := .running (s.now + s.interval) }

/-- One refresh in the background, after which the next is due at a given time. -/
def round (s : Service) (due : Nat) : Report Service := do
  let (s, replaced) ← s.refresh
  Report.note .debug .registry
    ("Refreshed " ++ toString replaced ++ "/" ++ toString s.registry.vendors.length
      ++ " directories")
  pure { s with refresher := .running due }

/-- Makes refreshes in turn while they are due by `finish`; at most `fuel` of them. -/
def roundsUntil (finish : Nat) : Nat → Service → Report Service
  | 0, s => pure s
  | fuel + 1, s => match s.refresher with
    | .running due =>
      if due ≤ finish then do
        roundsUntil finish fuel (← s.round (due + s.interval))
      else pure s
    | _ => pure s

/-- Time passes, and every refresh due on the way is made. -/
def sleep (s : Service) (ms : Nat) : Report Service := do
  let finish := s.now + ms
  let s ← roundsUntil finish (ms + 1) s
  pure { s with now := finish }

/-- The clock moves at once; of the refreshes due on the way one is made. -/
def jump (s : Service) (ms : Nat) : Report Service :=
  let s := { s with now := s.now + ms }
  match s.refresher with
  | .running due => if due ≤ s.now then s.round (s.now + s.interval) else pure s
  | _ => pure s

/-- Asks the background refresh to end. -/
def cancel (s : Service) : Service :=
  match s.refresher with
  | .running _ => { s.stop with cancelled := true }
  | _ => { s with cancelled := true }

end Service

end Egress
