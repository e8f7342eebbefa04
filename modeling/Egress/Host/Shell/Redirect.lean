import Egress.Host.Shell.Expansion

/-!
# Redirections

What redirections do to a shell's descriptors. Those of a command are in force while it runs, also
if it is left early; if one of them fails, the command is not run.
-/

set_option autoImplicit false

namespace Egress.Host.Shell

/-- The wording of why a file is not opened; `missing` says that there is none. -/
def openReason (missing : String) : Fault → String
  | .noEntry => missing
  | .notDirectory => missing
  | f => f.reason

/-- The stream of a file that is read. -/
def openToRead (s : Session) (path : String) : Except String Stream :=
  match s.files.lookup (Text.Raw.toText path) with
  | .ok (l, e) =>
    if !mayRead e.mode then .error ("cannot open " ++ path ++ ": " ++ Fault.denied.reason)
    else if e.isDirectory then .ok (.supply [])
    else .ok (.file l 0 false)
  | .error f => .error ("cannot open " ++ path ++ ": " ++ openReason "No such file" f)

/-- The stream of a file that is written, which is made if it is missing. -/
def openToWrite (s : Session) (path : String) (direction : Direction) :
    Except String (Session × Stream) :=
  let path' := Text.Raw.toText path
  let opened := if direction = .write && s.has 'C' && s.files.isFile path' then .error .taken
    else s.files.create path' 0o666
  match opened with
  | .error f => .error ("cannot create " ++ path ++ ": " ++ openReason "Directory nonexistent" f)
  | .ok (files, l) =>
    let empties := direction = .write || direction = .overwrite
    let files := match files.entry? l with
      | some e => if empties then files.put l (.file [] e.mode) else files
      | none => files
    .ok ({ s with files }, .file l 0 (direction = .append))

/-- Lets a descriptor lead to a stream of its own. -/
def Session.lead (s : Session) (descriptor : Nat) (stream : Stream) : Session :=
  let (i, s) := s.addStream stream
  s.setDescriptor descriptor (some i)

/-- Whether a text names a descriptor, or none at all. -/
def namesDescriptor (text : String) : Bool :=
  match text.toList with
  | [d] => d.isDigit || d = '-'
  | _ => false

/-- Makes a descriptor the same as the one that a text names. -/
def Session.duplicate (s : Session) (descriptor : Nat) (text : String) : Except String Session :=
  if text = "-" then .ok (s.setDescriptor descriptor none)
  else match (Text.natural? 10 text.toList).bind fun n => Keyed.get? n s.descriptors with
    | some i => .ok (s.setDescriptor descriptor (some i))
    | none => .error (text ++ ": Bad file descriptor")

/-- A descriptor that a path stands for. -/
def devices : List (String × String) :=
  [("/dev/stdin", "0"), ("/dev/stdout", "1"), ("/dev/stderr", "2")]

/-- Carries out a redirection to what a text names. -/
def Session.redirect (s : Session) (descriptor : Nat) (direction : Direction) (text : String) :
    Except String Session :=
  match direction with
  | .document => .ok (s.lead descriptor (.supply (Text.Raw.toBytes text)))
  | .duplicate => s.duplicate descriptor text
  | direction =>
    if text = "/dev/null" then .ok (s.lead descriptor .nowhere)
    else match Keyed.get? text devices with
      | some device => s.duplicate descriptor device
      | none =>
        if direction = .read then (openToRead s text).map (s.lead descriptor)
        else (openToWrite s text direction).map fun (s, stream) => s.lead descriptor stream

/-- Carries out redirections; what was wrong with the first that failed is complained about. -/
def redirectAll (e : Evaluator) : List (Redirection Word) → Run Bool
  | [] => return true
  | r :: rest => do
    let text ← e.text r.target
    if r.direction = .duplicate && !namesDescriptor text then
      modify fun s => { s with line := s.reached }
      Run.abort ("Syntax error: " ++ Problem.badDescriptor.message)
    match (← get).redirect r.descriptor r.direction text with
    | .ok s =>
      set s
      redirectAll e rest
    | .error complaint =>
      Run.complain complaint
      Run.finish 2
      return false

/-- Does something and lets the descriptors be what they were, also if it is left early. -/
def keepingDescriptors {α : Type} (r : Run α) : Run α := do
  let descriptors := (← get).descriptors
  let restore : Run Unit := modify fun s => { s with descriptors }
  try
    let a ← r
    restore
    return a
  catch escape =>
    restore
    throw escape

/-- Does something under redirections, unless one of them fails. -/
def redirecting (e : Evaluator) (rs : List (Redirection Word)) (r : Run Unit) : Run Unit :=
  if rs.isEmpty then r
  else keepingDescriptors do
    if ← redirectAll e rs then r

end Egress.Host.Shell
