import Egress.Text.Blank
import Egress.Text.Quoted

/-!
# JSON output

The JSON values the commands print and their layout: two spaces of indent a level, one member a
line, `[]` and `\x7b\x7d` for empty ones.
-/

set_option autoImplicit false

namespace Egress

/-- A JSON value; objects keep their members' order. -/
inductive Json where
  | null
  | text (s : String)
  | array (items : List Json)
  | object (members : List (String × Json))

namespace Json

/-- How a character is written in a JSON string. -/
def escapeChar (c : Char) : List Char :=
  match c with
  | '"' => ['\\', '"']
  | '\\' => ['\\', '\\']
  | '\n' => ['\\', 'n']
  | '\r' => ['\\', 'r']
  | '\t' => ['\\', 't']
  | '\x08' => ['\\', 'b']
  | '\x0c' => ['\\', 'f']
  | c =>
    if c.toNat < 0x20 then
      let ds := Text.digits 16 c.toNat
      ['\\', 'u'] ++ List.replicate (4 - ds.length) '0' ++ ds
    else [c]

/-- A JSON string. -/
def quote (s : String) : String :=
  String.ofList ('"' :: s.toList.flatMap escapeChar ++ ['"'])

/-- An array of texts. -/
def texts (ss : List String) : Json :=
  .array (ss.map .text)

/-- A text or null. -/
def ofOption : Option String → Json
  | some s => .text s
  | none => .null

/-- Brackets around items that are already laid out, each on a line of its own. -/
def enclose (depth : Nat) (opening closing : String) : List String → String
  | [] => opening ++ closing
  | items =>
    opening ++ "\n" ++ ",\n".intercalate (items.map (Text.indent (depth + 1) ++ ·)) ++ "\n"
      ++ Text.indent depth ++ closing

mutual

/-- The layout of a value whose first line is already indented to `depth`. -/
def render (depth : Nat) : Json → String
  | .null => "null"
  | .text s => quote s
  | .array vs => enclose depth "[" "]" (renderItems (depth + 1) vs)
  | .object ms => enclose depth "\x7b" "\x7d" (renderMembers (depth + 1) ms)

/-- Layouts of the items of an array. -/
def renderItems (depth : Nat) : List Json → List String
  | [] => []
  | v :: vs => render depth v :: renderItems depth vs

/-- Layouts of the members of an object. -/
def renderMembers (depth : Nat) : List (String × Json) → List String
  | [] => []
  | (k, v) :: ms => (quote k ++ ": " ++ render depth v) :: renderMembers depth ms

end

/-- The value laid out from the left margin. -/
def pretty (v : Json) : String :=
  v.render 0

end Json

end Egress
