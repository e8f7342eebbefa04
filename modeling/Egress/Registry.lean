import Egress.Channel
import Egress.Directory.Build

/-!
# The registry of directories

The directories of all vendors, each behind a channel. `Config.bootstrap` builds every one of them
or fails; `Registry.refresh` rebuilds them one by one, and a vendor whose rebuild fails keeps the
directory it had.
-/

set_option autoImplicit false

namespace Egress

/-- The vendors' directories in order of configuration. -/
structure Registry where
  channels : List (String × Channel Directory) := []

namespace Registry

/-- The vendors. -/
def vendors (r : Registry) : List String :=
  Keyed.keys r.channels

/-- The channel of a vendor's directory. -/
def channel? (r : Registry) (vendor : String) : Option (Channel Directory) :=
  Keyed.get? vendor r.channels

/-- A vendor's current directory. -/
def get? (r : Registry) (vendor : String) : Option Directory :=
  (r.channel? vendor).map Channel.value

/-- A subscription to a vendor's directory that counts from the first build. -/
def subscribe? (r : Registry) (vendor : String) : Option Subscription :=
  (r.channel? vendor).map fun _ => ⟨0⟩

/-- What a subscription to a vendor's directory has not accounted for. -/
def poll? (r : Registry) (vendor : String) (s : Subscription) : Option (News × Subscription) :=
  (r.channel? vendor).map (·.poll s)

/-- The registry when nothing refreshes it any more. -/
def close (r : Registry) : Registry :=
  ⟨r.channels.map fun (vendor, channel) => (vendor, channel.close)⟩

/-- A one-line description. -/
def describe (r : Registry) : String :=
  "DirectoryRegistry \x7b vendors: " ++ Text.quoteList r.vendors ++ " \x7d"

/-- Rebuilds the directories behind some channels; the number is that of those replaced. -/
def refreshChannels (config : Config) (resolver : Resolver) :
    List (String × Channel Directory) → Report (List (String × Channel Directory) × Nat)
  | [] => pure ([], 0)
  | (vendor, channel) :: rest => do
    match ← config.build resolver vendor with
    | .ok directory => do
      let (rest, replaced) ← refreshChannels config resolver rest
      pure ((vendor, channel.send directory) :: rest, replaced + 1)
    | .error e => do
      Report.note .warn .registry ("Keeping previous " ++ vendor ++ " directory: " ++ e.message)
      let (rest, replaced) ← refreshChannels config resolver rest
      pure ((vendor, channel) :: rest, replaced)

/-- Rebuilds every directory; the number is that of those replaced. -/
def refresh (r : Registry) (config : Config) (resolver : Resolver) : Report (Registry × Nat) := do
  let (channels, replaced) ← refreshChannels config resolver r.channels
  pure (⟨channels⟩, replaced)

end Registry

/-- Builds the directories of vendors that are not among those `channels` has already. -/
def Config.buildAll (c : Config) (resolver : Resolver) :
    List String → List (String × Channel Directory) →
      Report (Except DirectoryError (List (String × Channel Directory)))
  | [], channels => pure (.ok channels)
  | vendor :: rest, channels =>
    if Keyed.mem vendor channels then do
      Report.note .warn .registry ("Vendor " ++ vendor ++ " listed more than once")
      buildAll c resolver rest channels
    else do
      match ← c.build resolver vendor with
      | .error e => pure (.error e)
      | .ok directory => buildAll c resolver rest (channels ++ [(vendor, { value := directory })])

/-- Builds every vendor's directory once; the first fault ends it. -/
def Config.bootstrap (c : Config) (resolver : Resolver) (vendors : List String) :
    Report (Except DirectoryError Registry) := do
  match ← c.buildAll resolver vendors [] with
  | .error e => pure (.error e)
  | .ok channels => pure (.ok ⟨channels⟩)

end Egress
