import Egress.Host.FileStore.Basic
import Egress.Text.Blank
import Egress.Text.Raw

/-!
# Patterns

Patterns for texts and for names of files: a star stands for any text, a question mark for any
character, brackets for one of several. `Pattern.ofChars` reads one from characters that are
literal or not, and `Pattern.fits` compares it with a text. `pathsFor` finds the paths that a
pattern fits.
-/

set_option autoImplicit false

namespace Egress.Host.Shell

/-- What brackets in a pattern offer. -/
inductive Choice where
  | range (low high : Char)
  | family (name : String)
  deriving DecidableEq, Repr

/-- An item of a pattern. -/
inductive PatternItem where
  | one (c : Char)
  | any
  | many
  | oneOf (negated : Bool) (choices : List Choice)
  deriving DecidableEq, Repr

/-- A pattern. -/
abbrev Pattern := List PatternItem

/-- A character of a pattern, and whether it stands for itself only. -/
abbrev PatternChar := Char × Bool

/-- Whether a character is in a family. -/
def inFamily (name : String) (c : Char) : Bool :=
  match name with
  | "alpha" => c.isAlpha
  | "digit" => c.isDigit
  | "alnum" => c.isAlphanum
  | "upper" => c.isUpper
  | "lower" => c.isLower
  | "blank" => c = ' ' || c = '\t'
  | "space" => Text.isPlainBlank c
  | "xdigit" => (c.isDigit || ('a' ≤ c && c ≤ 'f') || ('A' ≤ c && c ≤ 'F'))
  | "cntrl" => c < ' ' || c = '\x7f'
  | "print" => ' ' ≤ c && c ≤ '~'
  | "graph" => '!' ≤ c && c ≤ '~'
  | "punct" => '!' ≤ c && c ≤ '~' && !c.isAlphanum
  | _ => false

/-- The family at the start, after a bracket and a colon, and what follows it. -/
def family? (cs : List PatternChar) : Option (Choice × List PatternChar) :=
  let name := (cs.map Prod.fst).takeWhile Char.isAlpha
  match cs.drop name.length with
  | (':', _) :: (']', _) :: rest => some (.family (String.ofList name), rest)
  | _ => none

/-- What brackets offer, after their first character, and what follows them. -/
def choices? : Nat → Bool → List PatternChar → Option (List Choice × List PatternChar)
  | 0, _, _ => none
  | _ + 1, _, [] => none
  | n + 1, first, (c, literal) :: rest =>
    if c = ']' && !literal && !first then some ([], rest)
    else
      let known := match c, literal, rest with
        | '[', false, (':', _) :: rest => family? rest
        | _, _, _ => none
      match known with
      | some (choice, rest) => (choices? n false rest).map fun (cs, r) => (choice :: cs, r)
      | none => match rest with
        | ('-', false) :: (d, dLiteral) :: rest' =>
          if d = ']' && !dLiteral then
            (choices? n false rest).map fun (cs, r) => (.range c c :: cs, r)
          else (choices? n false rest').map fun (cs, r) => (.range c d :: cs, r)
        | rest => (choices? n false rest).map fun (cs, r) => (.range c c :: cs, r)

namespace Pattern

/-- Reads a pattern; `n` bounds the characters. Brackets that are not closed stand for
themselves. -/
def read : Nat → List PatternChar → Pattern
  | 0, _ => []
  | _ + 1, [] => []
  | n + 1, (c, literal) :: rest =>
    if literal then .one c :: read n rest
    else match c with
      | '*' => .many :: read n rest
      | '?' => .any :: read n rest
      | '[' =>
        let (negated, inner) := match rest with
          | ('!', false) :: rest => (true, rest)
          | rest => (false, rest)
        match choices? (inner.length + 1) true inner with
        | some (choices, after) => .oneOf negated choices :: read n after
        | none => .one c :: read n rest
      | '\\' => match rest with
        | (d, false) :: rest => .one d :: read n rest
        | rest => .one c :: read n rest
      | c => .one c :: read n rest

/-- Reads a pattern. -/
def ofChars (cs : List PatternChar) : Pattern :=
  read (cs.length + 1) cs

end Pattern

/-- Whether brackets offer a character. -/
def Choice.offers (c : Char) : Choice → Bool
  | .range low high => low ≤ c && c ≤ high
  | .family name => inFamily name c

/-- Whether an item stands for a character. -/
def PatternItem.admits (c : Char) : PatternItem → Bool
  | .one d => c = d
  | .any => true
  | .many => true
  | .oneOf negated choices => choices.any (·.offers c) != negated

/-- The ends of a text, from the whole to nothing. -/
def ends {α : Type} : List α → List (List α)
  | [] => [[]]
  | a :: as => (a :: as) :: ends as

/-- Whether a pattern fits a text. -/
def Pattern.fits : Pattern → List Char → Bool
  | [], cs => cs.isEmpty
  | .many :: items, cs => (ends cs).any fun rest => Pattern.fits items rest
  | item :: items, c :: cs => item.admits c && Pattern.fits items cs
  | _ :: _, [] => false

/-- Whether something in a pattern does not stand for itself. -/
def Pattern.isWild (p : Pattern) : Bool :=
  p.any fun
    | .one _ => false
    | _ => true

/-- The text that a pattern of single characters is. -/
def Pattern.text (p : Pattern) : List Char :=
  p.filterMap fun
    | .one c => some c
    | _ => none

/-! ## Cutting -/

/-- A text without the shortest or longest end that a pattern fits. -/
def cutEnd (longest : Bool) (p : Pattern) (cs : List Char) : List Char :=
  let found := (ends cs).filter fun rest => p.fits rest
  match if longest then found.head? else found.getLast? with
  | some rest => cs.take (cs.length - rest.length)
  | none => cs

/-- A text without the shortest or longest beginning that a pattern fits. -/
def cutStart (longest : Bool) (p : Pattern) (cs : List Char) : List Char :=
  let found := (ends cs).filter fun rest => p.fits (cs.take (cs.length - rest.length))
  match if longest then found.getLast? else found.head? with
  | some rest => rest
  | none => cs

/-! ## Paths -/

/-- The order of texts by their bytes. -/
def atMost (a b : String) : Bool :=
  !(b < a)

/-- The pieces of a path between slashes. -/
def segments : List PatternChar → List (List PatternChar)
  | [] => [[]]
  | c :: rest =>
    if c.1 = '/' then [] :: segments rest
    else match segments rest with
      | [] => [[c]]
      | s :: more => (c :: s) :: more

/-- Names in a directory that a pattern fits. A dot at the start has to be written. -/
def namesFor (files : FileStore) (dir : String) (p : Pattern) : List String :=
  match files.lookup (Text.Raw.toText (if dir = "" then "." else dir)) with
  | .ok (l, .directory mode) =>
    if mayRead mode then
      let names := ["." , ".."] ++ (files.namesAt l).map Text.Raw.ofText
      names.filter fun name =>
        (name.toList.head? ≠ some '.' || p.head? = some (.one '.')) && p.fits name.toList
    else []
  | _ => []

/-- Paths that begin with one of those given and go on as segments say. -/
def pathsFrom (files : FileStore) : List String → List (List PatternChar) → List String
  | found, [] => found
  | found, s :: rest =>
    let p := Pattern.ofChars s
    let here := found.flatMap fun start =>
      if p.isWild then (namesFor files start p).map (start ++ ·)
      else [start ++ String.ofList p.text]
    match rest with
    | [] => here
    | rest => pathsFrom files (here.map (· ++ "/")) rest

/-- The paths that a pattern fits, in order. -/
def pathsFor (files : FileStore) (cs : List PatternChar) : List String :=
  let found := pathsFrom files [""] (segments cs)
  (found.filter fun path => files.has (Text.Raw.toText path)).mergeSort atMost

end Egress.Host.Shell
