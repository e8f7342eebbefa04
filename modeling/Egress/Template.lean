import Egress.Fault
import Egress.Text.Blank
import Egress.Text.Doubled
import Egress.Text.Quoted

/-!
# Templates

A template is a text with holes, `\x7b\x7b name \x7d\x7d`; a dot in front of the name is allowed.
`parts` cuts a template into literal texts and holes without looking at any values, and `render`
fills the holes in one after the other, so that a value is never scanned for holes again.
-/

set_option autoImplicit false

namespace Egress

/-- Why a template cannot be rendered. -/
inductive RenderError where
  /-- An opening mark without a closing one; the offset is in bytes. -/
  | unterminated (offset : Nat)
  | unknownVariable (name : String)
  | unreadable (path : String) (fault : Fault)
  deriving DecidableEq, Repr

/-- The wording of a rendering fault. -/
def RenderError.message : RenderError → String
  | .unterminated offset => "Unterminated placeholder at offset " ++ toString offset
  | .unknownVariable name => "Unknown template variable: " ++ name
  | .unreadable path fault =>
    "Unable to read template " ++ Text.quote path ++ ": " ++ fault.message

/-- The wordings of what lies behind a rendering fault. -/
def RenderError.causes : RenderError → List String
  | .unreadable _ fault => [fault.message]
  | _ => []

namespace Template

/-- Values of variables. -/
abbrev Variables := String → Option String

/-- The variables of a list of names and values; of two values for a name the later counts. -/
def Variables.ofList (entries : List (String × String)) : Variables := fun name =>
  (entries.reverse.find? (·.1 = name)).map (·.2)

/-- A piece of a template. -/
inductive Part where
  | literal (text : List Char)
  | hole (name : String)
  /-- An opening mark that is not closed, at this offset in bytes. -/
  | opened (offset : Nat)
  deriving DecidableEq, Repr

/-- Length in bytes. -/
def byteLength : List Char → Nat
  | [] => 0
  | c :: cs => c.utf8Size + byteLength cs

theorem byteLength_append (xs ys : List Char) :
    byteLength (xs ++ ys) = byteLength xs + byteLength ys := by
  induction xs with
  | nil => simp [byteLength]
  | cons x xs ih => simp [byteLength, ih, Nat.add_assoc]

/-- The name in a hole: blanks at its ends and one dot in front do not count. -/
def holeName (inside : List Char) : String :=
  String.ofList <| match Text.trim inside with
    | '.' :: rest => Text.trim rest
    | name => name

/-- The text before the first hole and, if the hole is closed, the text inside and after it. -/
def nextHole? (cs : List Char) : Option (List Char × Option (List Char × List Char)) :=
  (Text.cutAt '\x7b' cs).map fun (before, rest) => (before, Text.cutAt '\x7d' rest)

theorem nextHole?_length {cs before inside after : List Char}
    (h : nextHole? cs = some (before, some (inside, after))) : after.length < cs.length := by
  obtain ⟨⟨x, y⟩, hxy, he⟩ := Option.map_eq_some_iff.1 h
  simp only [Prod.mk.injEq] at he
  have := Text.cutAt_length hxy
  have := Text.cutAt_length he.2
  omega

/-- The pieces of a template whose first character stands at `offset`. -/
def parts (offset : Nat) (cs : List Char) : List Part :=
  match h : nextHole? cs with
  | none => [.literal cs]
  | some (before, none) => [.literal before, .opened (offset + byteLength before)]
  | some (before, some (inside, after)) =>
    .literal before :: .hole (holeName inside)
      :: parts (offset + byteLength before + byteLength inside + 4) after
termination_by cs.length
decreasing_by exact nextHole?_length h

/-- The text a piece stands for. -/
def Part.fill (vars : Variables) : Part → Except RenderError (List Char)
  | .literal cs => .ok cs
  | .hole name => match vars name with
    | some value => .ok value.toList
    | none => .error (.unknownVariable name)
  | .opened offset => .error (.unterminated offset)

/-- The texts of pieces, one after the other, up to the first that has none. -/
def fillAll (vars : Variables) : List Part → Except RenderError (List Char)
  | [] => .ok []
  | p :: ps => do
    let text ← p.fill vars
    let rest ← fillAll vars ps
    .ok (text ++ rest)

/-- The template with its holes filled in. -/
def render (vars : Variables) (template : String) : Except RenderError String :=
  (fillAll vars (parts 0 template.toList)).map String.ofList

end Template

end Egress
