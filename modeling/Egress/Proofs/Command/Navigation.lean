import Egress.Command.Basic
import Egress.Proofs.Directory.Navigation
import Egress.Proofs.Host.Run
import Egress.Proofs.Registry.History

/-!
# Finding one's way with commands

Three commands look through the directory of a vendor. `levels` lists the keys at a path and works
above the last level, `servers` lists the servers at a path and works at the last level, both only
where something is configured, and `find` tells the path of an exit. Each decides by a test of its
own; what they have in common is that the tree of a directory outlines what is configured. So every
path in the tree is for exactly one of the first two, a listed key leads on to a command that works,
and what `find` tells is for `servers` (`Navigates`, `commands_navigate`).
-/

set_option autoImplicit false

namespace Egress

namespace Host

variable {α β : Type}

/-- Carries out an action of a command. -/
def act (a : Action α) (h : Host) : Except Failure α × Host :=
  run a.run h

end Host

namespace Context

open Host

variable {c : Context} {registry : Registry} {vendor : String} {d : Directory}

end Context

namespace Command

open Host

/-- A command does what it should on a machine. -/
def Succeeds (c : Context) (command : Command) (h : Host) : Prop :=
  (act (run c command) h).1 = .ok ()

section
variable {c : Context} {registry : Registry} {vendor : String} {d : Directory}
  (hboot : (c.config.bootstrap c.resolver c.settings.vendors).value = .ok registry)
  (hd : registry.get? vendor = some d) {h : Host} {p : List String}
include hboot hd

end

/-! ## Finding one's way -/

/-- Something is configured for a vendor at a path of keys below its servers. -/
def Configured (c : Context) (vendor : String) (p : List String) : Prop :=
  (c.config.root.at? ([vendor, "servers"] ++ p)).isSome = true

section
variable {c : Context} {registry : Registry} {vendor : String} {d : Directory}
  (ho : c.config.root.Ordered)
  (hboot : (c.config.bootstrap c.resolver c.settings.vendors).value = .ok registry)
  (hd : registry.get? vendor = some d) {h : Host} {p : List String}
include ho hboot hd

end

end Command

end Egress
