import Egress.Text.Piece

/-!
# Paths of files

Paths are texts with slashes; empty pieces and pieces of a single dot name no file of their own.
`stagingDir` is the directory in which a file is prepared before it takes the place of another.
-/

set_option autoImplicit false

namespace Egress.Host

/-- A piece of a path that stays where it is. -/
def staysPut (piece : List Char) : Bool :=
  piece.isEmpty || piece = ['.']

/-- Pieces without those at the end that stay put. -/
def trimPieces (pieces : List (List Char)) : List (List Char) :=
  (pieces.reverse.dropWhile staysPut).reverse

/-- Pieces without the last one that names something and what follows it, if there is one. -/
def dropLast? (pieces : List (List Char)) : Option (List (List Char)) :=
  let named := trimPieces pieces
  if named.isEmpty then none else some (trimPieces named.dropLast)

/-- The path without its last name; none for the root and for the empty path. A dot at the start of
a relative path is a name. -/
def parent? (path : List Char) : Option (List Char) :=
  match Text.pieces '/' path with
  | [] :: [] => none
  | [] :: body => (dropLast? body).map fun body => '/' :: ['/'].intercalate body
  | first :: rest => match dropLast? rest with
    | some rest => some (['/'].intercalate (first :: rest))
    | none => some []
  | [] => none

/-- The directory that a path's last name stands in, the current one if the path names none. -/
def stagingDir (destination : String) : String :=
  match parent? destination.toList with
  | some (c :: cs) => String.ofList (c :: cs)
  | _ => "."

end Egress.Host
