import Egress.CommandLine.Filter
import Egress.Machine

/-!
# Showing notes

The line that shows a note, and the notes of a procedure shown on the error stream as far as a
filter allows. Characters that a terminal could take for a command are shown by their codes.
-/

set_option autoImplicit false

namespace Egress.Log

/-- Number of the colour of a level. -/
def color : Level → Nat
  | .error => 31
  | .warn => 33
  | .info => 32
  | .debug => 34
  | .trace => 35

/-- How a character of a note is shown. -/
def shownChar (c : Char) : List Char :=
  if c = '\x1b' then "\\x1b".toList
  else if c = '\x07' then "\\x07".toList
  else if c = '\x08' then "\\x08".toList
  else if c = '\x0c' then "\\x0c".toList
  else if c = '\x7f' then "\\x7f".toList
  else if 0x80 ≤ c.toNat && c.toNat ≤ 0x9F then
    "\\u\x7b".toList ++ Nat.toDigits 16 c.toNat ++ ['\x7d']
  else [c]

/-- The line that shows a note. -/
def line (time : String) (n : Note) : String :=
  "\x1b[2m" ++ time ++ "\x1b[0m \x1b[" ++ toString (color n.level) ++ "m"
    ++ String.ofList (List.replicate (5 - (word n.level).length) ' ') ++ word n.level
    ++ "\x1b[0m " ++ String.ofList (n.text.toList.flatMap shownChar) ++ "\n"

/-- Writes the notes that a filter allows to the error stream and leaves everything else to the
machine. -/
def answer (f : Filter) : (q : Machine.Request) → Procedure Machine (Machine.Reply q)
  | .note n => do
    if f.shows n then Machine.say .errors (line (← Machine.time) n)
  | q => .perform (S := Machine) q

/-- A procedure whose notes are shown. -/
def shown {α : Type} (f : Filter) (p : Procedure Machine α) : Procedure Machine α :=
  p.run (answer f)

end Egress.Log
