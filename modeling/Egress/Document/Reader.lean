import Egress.Document.Assembly
import Egress.Document.Scalar

/-!
# Reading a document

`read` reads a whole TOML document as a table, or tells on which line the first statement begins
that cannot be read or contradicts those before it.
-/

set_option autoImplicit false

namespace Egress.Document

/-- Items of a list after its opening bracket; `fuel` bounds them. -/
def listItems (item : Reader Value) : Nat → Reader (List Value)
  | 0, _ => none
  | fuel + 1, cs => do
    match ← skipGap false cs with
    | ']' :: rest => some ([], rest)
    | cs =>
      let (v, rest) ← item cs
      match ← skipGap false rest with
      | ',' :: rest =>
        let (vs, rest) ← listItems item fuel rest
        some (v :: vs, rest)
      | ']' :: rest => some ([v], rest)
      | _ => none

/-- Pairs of an inline table, at least one, up to its closing brace; `fuel` bounds them. -/
def inlinePairs (item : Reader Value) : Nat → Items → Reader Items
  | 0, _, _ => none
  | fuel + 1, es, cs => do
    let (path, rest) ← key? cs
    let rest ← char? '=' rest
    let (v, rest) ← item (skipSpaces rest)
    let es ← addDotted (path.getLastD "") v true path.dropLast es
    match skipSpaces rest with
    | ',' :: rest => inlinePairs item fuel es rest
    | '\x7d' :: rest => some (es, rest)
    | _ => none

/-- A value with at most `n` levels of lists and inline tables. -/
def value? : Nat → Reader Value
  | _, '"' :: rest => (string? ('"' :: rest)).map fun (s, rest) => (.text s, rest)
  | _, '\'' :: rest => (string? ('\'' :: rest)).map fun (s, rest) => (.text s, rest)
  | 0, '[' :: _ => none
  | n + 1, '[' :: rest =>
    (listItems (value? n) (rest.length + 1) rest).map fun (vs, rest) => (.list vs, rest)
  | 0, '\x7b' :: _ => none
  | n + 1, '\x7b' :: rest =>
    match skipSpaces rest with
    | '\x7d' :: rest => some (.table [], rest)
    | rest =>
      (inlinePairs (value? n) (rest.length + 1) [] rest).bind fun (es, rest) =>
        (closeTable? es).map (·, rest)
  | _, cs => scalar? cs

/-- The path of a header up to its closing bracket, with the rest of its line left out. -/
def header? (closing : Nat) (cs : List Char) : Option (List String × String × List Char) := do
  let (path, rest) ← key? cs
  if rest.take closing = List.replicate closing ']' then
    let rest ← restOfLine? (rest.drop closing)
    some (path.dropLast, path.getLastD "", rest)
  else none

/-- The statement ahead with the rest of its line left out. -/
def statement? : Reader Statement
  | '[' :: '[' :: cs => (header? 2 cs).map fun (path, key, rest) => (.nextHeader path key, rest)
  | '[' :: cs => (header? 1 cs).map fun (path, key, rest) => (.header path key, rest)
  | cs => do
    let (path, rest) ← key? cs
    let rest ← char? '=' rest
    let (v, rest) ← value? nestingLimit (skipSpaces rest)
    let rest ← restOfLine? rest
    some (.pair path.dropLast (path.getLastD "") v, rest)

/-- Adds the statements ahead to a draft, or gives the text from the first on that cannot be read or
added; `fuel` bounds them. -/
def statements (fuel : Nat) (d : Draft) (cs : List Char) : Except (List Char) Draft :=
  match fuel with
  | 0 => .error cs
  | fuel + 1 =>
    match skipSpaces cs with
    | [] => .ok d
    | '#' :: rest => match restOfLine? ('#' :: rest) with
      | some rest => statements fuel d rest
      | none => .error cs
    | '\n' :: rest => statements fuel d rest
    | '\r' :: rest => match lineEnd? ('\r' :: rest) with
      | some rest => statements fuel d rest
      | none => .error cs
    | ahead => match (statement? ahead).bind fun (s, rest) => (d.add? s).map (·, rest) with
      | some (d, rest) => statements fuel d rest
      | none => .error cs

/-- The table a text denotes, or the number of the line with the first statement that is none; of the
last line if the statements are fine but a table is no date. A byte order mark may come first. -/
def read (text : String) : Except Nat Table :=
  let cs := match text.toList with
    | '\uFEFF' :: cs => cs
    | cs => cs
  match statements (cs.length + 1) .empty cs with
  | .ok d => match d.close? with
    | some table => .ok table
    | none => .error (cs.count '\n' + 1)
  | .error rest => .error ((cs.take (cs.length - rest.length)).count '\n' + 1)

end Egress.Document
