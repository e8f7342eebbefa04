import Egress.Text.Columns
import Egress.Text.Piece

/-!
# Grids of text

Tables with a frame: a head, a rule below it, and rows of cells aligned to the left, with a blank on
either side of each. A grid that is wider than it may be has its columns narrowed by one each in
turn, as long as they have any width, and then breaks every cell into lines of its column's width.
-/

set_option autoImplicit false

namespace Egress.Grid

/-- The lines of a cell. -/
def cellLines (cell : List Char) : List (List Char) :=
  Text.pieces '\n' cell

/-- Columns of the widest line of a cell. -/
def cellWidth (cell : List Char) : Nat :=
  ((cellLines cell).map Text.columns).foldl max 0

/-- Widths of the columns that hold all cells. -/
def widths (rows : List (List (List Char))) : List Nat :=
  rows.foldl (fun ws row => List.zipWith max ws (row.map cellWidth))
    (((rows.head?.map List.length).map (List.replicate · 0)).getD [])

/-- Width of a grid whose columns have these widths, with blanks and frame. -/
def totalWidth (ws : List Nat) : Nat :=
  ws.foldl (fun total w => total + w + 3) 1

/-- The first column from `i` on, going round, that has something to take away. -/
def nextShrinkable (ws : List Nat) (i : Nat) : Option Nat :=
  ((List.range ws.length).map fun k => (i + k) % ws.length).find? fun j => 0 < ws.getD j 0

/-- Takes away a total of `n` from the columns, one from each in turn from column `i` on. -/
def shrink : Nat → Nat → List Nat → List Nat
  | 0, _, ws => ws
  | n + 1, i, ws => match nextShrinkable ws i with
    | none => ws
    | some j => shrink n (j + 1) (ws.set j (ws.getD j 0 - 1))

/-- Stands for a character that is too wide for the rest of its line. -/
def replacement : Char := '\uFFFD'

/-- Breaks a text into lines of a width; `line` is the one being filled, backwards, and `used` its
columns. -/
def breakLines (width : Nat) : List Char → Nat → List Char → List (List Char)
  | line, _, [] => if line.isEmpty then [] else [line.reverse]
  | line, used, c :: cs =>
    let n := Text.charColumns c
    let (line, used) :=
      if width < used + n then (List.replicate (width - used) replacement ++ line, width)
      else (c :: line, used + n)
    if used = width then line.reverse :: breakLines width [] 0 cs
    else breakLines width line used cs

/-- A cell broken to a width, unless it fits already. -/
def wrapCell (width : Nat) (cell : List Char) : List Char :=
  if cellWidth cell ≤ width then cell
  else if width = 0 then []
  else ['\n'].intercalate (breakLines width [] 0 cell)

/-- A line between two ends, with a mark between columns. -/
def rule (left mark right : String) (ws : List Nat) : String :=
  left ++ mark.intercalate (ws.map fun w => String.ofList (List.replicate (w + 2) '─')) ++ right

/-- A line of a cell, filled to its column's width. -/
def fill (width : Nat) (line : List Char) : String :=
  String.ofList (' ' :: line ++ List.replicate (width - Text.columns line) ' ' ++ [' '])

/-- The lines of a row. -/
def rowLines (ws : List Nat) (row : List (List Char)) : List String :=
  let cells := row.map cellLines
  let height := (cells.map List.length).foldl max 0
  (List.range height).map fun k =>
    "│" ++ "│".intercalate (List.zipWith (fun w ls => fill w (ls.getD k [])) ws cells) ++ "│"

/-- The grid of a head and rows in the frame, in lines, for columns of these widths. -/
def frame (ws : List Nat) (head : List (List Char)) (rows : List (List (List Char))) :
    List String :=
  [rule "╭" "┬" "╮" ws] ++ rowLines ws head ++ [rule "├" "┼" "┤" ws]
    ++ rows.flatMap (rowLines ws) ++ [rule "╰" "┴" "╯" ws]

/-- The grid of a head and rows, at most `limit` wide where that can be. -/
def render (limit : Nat) (head : List String) (rows : List (List String)) : String :=
  let head := head.map String.toList
  let rows := rows.map (List.map String.toList)
  let ws := widths (head :: rows)
  let lines :=
    if totalWidth ws ≤ limit then frame ws head rows
    else
      let ws := shrink (totalWidth ws - limit) 0 ws
      let wrap := List.zipWith wrapCell ws
      frame ws (wrap head) (rows.map wrap)
  "\n".intercalate lines

end Egress.Grid
