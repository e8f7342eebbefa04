/-!
# Notes

What the program tells its operator while it works: a text with a level of importance and a topic.
-/

set_option autoImplicit false

namespace Egress

/-- How important a note is, the most important first. -/
inductive Level where
  | error
  | warn
  | info
  | debug
  | trace
  deriving DecidableEq, Repr

/-- What a note is about. -/
inductive Topic where
  /-- Finding and reading the configuration. -/
  | configuration
  | settings
  /-- Building a vendor's directory. -/
  | build
  | registry
  | resolver
  /-- Commands and files on this machine. -/
  | commands
  | connection
  | transport
  | session
  | watch
  deriving DecidableEq, Repr

/-- A note. -/
structure Note where
  level : Level
  topic : Topic
  text : String
  deriving DecidableEq, Repr

end Egress
