/-!
# Faults of the system

Why the operating system, or a look-up of a name, refused a request, with the system's wording.
-/

set_option autoImplicit false

namespace Egress

/-- Why a request to the system was refused. -/
inductive Fault where
  | notPermitted
  | noEntry
  | noExecutable
  | denied
  | busy
  | taken
  | notDirectory
  | isDirectory
  | invalid
  | nameTooLong
  | notEmpty
  | tooManyLinks
  | unreachable
  /-- A file that should hold text is not well-formed UTF-8. -/
  | notText
  /-- A path with a null character. -/
  | nullInPath
  | other (reason : String)
  deriving DecidableEq, Repr

/-- The system's wording. -/
def Fault.reason : Fault → String
  | .notPermitted => "Operation not permitted"
  | .noEntry => "No such file or directory"
  | .noExecutable => "Exec format error"
  | .denied => "Permission denied"
  | .busy => "Device or resource busy"
  | .taken => "File exists"
  | .notDirectory => "Not a directory"
  | .isDirectory => "Is a directory"
  | .invalid => "Invalid argument"
  | .nameTooLong => "File name too long"
  | .notEmpty => "Directory not empty"
  | .tooManyLinks => "Too many levels of symbolic links"
  | .unreachable => "Network is unreachable"
  | .nullInPath => "file name contained an unexpected NUL byte"
  | .notText => "stream did not contain valid UTF-8"
  | .other reason => reason

/-- The system's number of a fault, if it has one. -/
def Fault.number? : Fault → Option Nat
  | .notPermitted => some 1
  | .noEntry => some 2
  | .noExecutable => some 8
  | .denied => some 13
  | .busy => some 16
  | .taken => some 17
  | .notDirectory => some 20
  | .isDirectory => some 21
  | .invalid => some 22
  | .nameTooLong => some 36
  | .notEmpty => some 39
  | .tooManyLinks => some 40
  | .unreachable => some 101
  | .nullInPath => none
  | .notText => none
  | .other _ => none

/-- The system's wording, with the number if there is one. -/
def Fault.message (f : Fault) : String :=
  match f.number? with
  | some n => f.reason ++ " (os error " ++ toString n ++ ")"
  | none => f.reason

end Egress
