import Egress.Text.Numeral

/-!
# Lexemes of a document

The smallest parts of a TOML document: blanks and comments, keys, strings. A reader takes the
characters ahead and gives what it read with the characters after it, or nothing when they do not
start with such a part.
-/

set_option autoImplicit false

namespace Egress.Document

/-- Reads an `α` from the characters ahead. -/
abbrev Reader (α : Type) := List Char → Option (α × List Char)

/-! ## Blanks, comments and line ends -/

/-- Space or tab. -/
def isSpace (c : Char) : Bool :=
  c = ' ' || c = '\t'

/-- May stand in a comment or a literal string: not a control character other than the tab. -/
def isPlain (c : Char) : Bool :=
  c = '\t' || (0x20 ≤ c.toNat && c.toNat ≠ 0x7F)

/-- Without the spaces and tabs ahead. -/
def skipSpaces (cs : List Char) : List Char :=
  cs.dropWhile isSpace

/-- After the line end ahead, if there is one. -/
def lineEnd? : List Char → Option (List Char)
  | '\n' :: rest => some rest
  | '\r' :: '\n' :: rest => some rest
  | _ => none

/-- After the spaces, the comment and the line end (or the end of the text) ahead. -/
def restOfLine? (cs : List Char) : Option (List Char) :=
  let cs := match skipSpaces cs with
    | '#' :: rest => rest.dropWhile isPlain
    | rest => rest
  if cs.isEmpty then some [] else lineEnd? cs

/-- After any blanks, comments and line ends ahead; a comment has to end in a line end. -/
def skipGap : Bool → List Char → Option (List Char)
  | _, '\n' :: rest => skipGap false rest
  | _, '\r' :: '\n' :: rest => skipGap false rest
  | true, c :: rest => if isPlain c then skipGap true rest else none
  | true, [] => none
  | false, ' ' :: rest => skipGap false rest
  | false, '\t' :: rest => skipGap false rest
  | false, '#' :: rest => skipGap true rest
  | false, rest => some rest

/-! ## Strings -/

/-- The character with this code point in hexadecimal, unless it is no character. -/
def codePoint? (ds : List Char) : Option Char :=
  (Text.natural? 16 ds).bind fun n =>
    if n < 0xD800 || (0xDFFF < n && n < 0x110000) then some (Char.ofNat n) else none

/-- The character a one-letter escape stands for. -/
def escape? (c : Char) : Option Char :=
  match c with
  | 'b' => some '\x08'
  | 't' => some '\t'
  | 'n' => some '\n'
  | 'f' => some '\x0c'
  | 'r' => some '\r'
  | '"' => some '"'
  | '\\' => some '\\'
  | _ => none

/-- Puts a character in front of what was read. -/
def consChar (c : Char) (r : Option (List Char × List Char)) : Option (List Char × List Char) :=
  r.map fun (cs, rest) => (c :: cs, rest)

/-- A basic string after its opening quote. -/
def basicBody : Reader (List Char)
  | [] => none
  | '"' :: rest => some ([], rest)
  | '\\' :: 'u' :: a :: b :: c :: d :: rest =>
    (codePoint? [a, b, c, d]).bind (consChar · (basicBody rest))
  | '\\' :: 'U' :: a :: b :: c :: d :: e :: f :: g :: h :: rest =>
    (codePoint? [a, b, c, d, e, f, g, h]).bind (consChar · (basicBody rest))
  | '\\' :: e :: rest => (escape? e).bind (consChar · (basicBody rest))
  | c :: rest => if isPlain c then consChar c (basicBody rest) else none

/-- A literal string after its opening quote. -/
def literalBody : Reader (List Char)
  | [] => none
  | '\'' :: rest => some ([], rest)
  | c :: rest => if isPlain c then consChar c (literalBody rest) else none

/-- Where a multi-line string stands: in its text, right after a backslash that folds a line end,
or past that line end. -/
inductive Fold where
  | none
  | opened
  | skipping

/-- A multi-line basic string after its opening quotes and the line end that may follow them. -/
def multiBody : Fold → Reader (List Char)
  | .opened, '\n' :: rest => multiBody .skipping rest
  | .opened, '\r' :: '\n' :: rest => multiBody .skipping rest
  | .opened, ' ' :: rest => multiBody .opened rest
  | .opened, '\t' :: rest => multiBody .opened rest
  | .opened, _ => none
  | .skipping, '\n' :: rest => multiBody .skipping rest
  | .skipping, '\r' :: '\n' :: rest => multiBody .skipping rest
  | .skipping, ' ' :: rest => multiBody .skipping rest
  | .skipping, '\t' :: rest => multiBody .skipping rest
  | _, [] => none
  | _, '"' :: '"' :: '"' :: '"' :: '"' :: rest => some (['"', '"'], rest)
  | _, '"' :: '"' :: '"' :: '"' :: rest => some (['"'], rest)
  | _, '"' :: '"' :: '"' :: rest => some ([], rest)
  | _, '\\' :: 'u' :: a :: b :: c :: d :: rest =>
    (codePoint? [a, b, c, d]).bind (consChar · (multiBody .none rest))
  | _, '\\' :: 'U' :: a :: b :: c :: d :: e :: f :: g :: h :: rest =>
    (codePoint? [a, b, c, d, e, f, g, h]).bind (consChar · (multiBody .none rest))
  | _, '\\' :: e :: rest =>
    if isSpace e || e = '\n' || e = '\r' then multiBody .opened (e :: rest)
    else (escape? e).bind (consChar · (multiBody .none rest))
  | _, '\n' :: rest => consChar '\n' (multiBody .none rest)
  | _, '\r' :: '\n' :: rest => consChar '\n' (multiBody .none rest)
  | _, c :: rest => if isPlain c then consChar c (multiBody .none rest) else none

/-- A multi-line literal string after its opening quotes and the line end that may follow them. -/
def multiLiteralBody : Reader (List Char)
  | [] => none
  | '\'' :: '\'' :: '\'' :: '\'' :: '\'' :: rest => some (['\'', '\''], rest)
  | '\'' :: '\'' :: '\'' :: '\'' :: rest => some (['\''], rest)
  | '\'' :: '\'' :: '\'' :: rest => some ([], rest)
  | '\n' :: rest => consChar '\n' (multiLiteralBody rest)
  | '\r' :: '\n' :: rest => consChar '\n' (multiLiteralBody rest)
  | c :: rest => if isPlain c then consChar c (multiLiteralBody rest) else none

/-- The text without a line end at its start. -/
def dropLineEnd (cs : List Char) : List Char :=
  (lineEnd? cs).getD cs

/-- A string of any of the four kinds. -/
def string? : Reader String
  | '"' :: '"' :: '"' :: rest => text (multiBody .none (dropLineEnd rest))
  | '\'' :: '\'' :: '\'' :: rest => text (multiLiteralBody (dropLineEnd rest))
  | '"' :: rest => text (basicBody rest)
  | '\'' :: rest => text (literalBody rest)
  | _ => none
where
  text (r : Option (List Char × List Char)) : Option (String × List Char) :=
    r.map fun (cs, rest) => (String.ofList cs, rest)

/-! ## Keys -/

/-- May stand in a bare key. -/
def isBareKey (c : Char) : Bool :=
  c.isAlphanum || c = '-' || c = '_'

/-- One part of a dotted key. -/
def simpleKey? : Reader String
  | '"' :: rest => (basicBody rest).map fun (cs, rest) => (String.ofList cs, rest)
  | '\'' :: rest => (literalBody rest).map fun (cs, rest) => (String.ofList cs, rest)
  | cs =>
    let name := cs.takeWhile isBareKey
    if name.isEmpty then none else some (String.ofList name, cs.dropWhile isBareKey)

/-- How many parts a dotted key and how many levels of lists and inline tables a value may have,
less one. -/
def nestingLimit : Nat := 79

/-- A key of at most `n` dotted parts, with the spaces around each. -/
def keyParts? : Nat → Reader (List String)
  | 0, _ => none
  | n + 1, cs => do
    let (part, rest) ← simpleKey? (skipSpaces cs)
    match skipSpaces rest with
    | '.' :: rest =>
      let (parts, rest) ← keyParts? n rest
      some (part :: parts, rest)
    | rest => some ([part], rest)

/-- A dotted key. -/
def key? : Reader (List String) :=
  keyParts? nestingLimit

end Egress.Document
