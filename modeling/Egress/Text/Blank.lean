/-!
# Blank characters

Trimming and splitting at blanks, where a blank is a character with the Unicode property
White_Space. Everything is defined on lists of characters; `words` keeps no blank and loses no other
character (`words_flatten`).
-/

set_option autoImplicit false

namespace Egress.Text

/-- Has the Unicode property White_Space. -/
def isBlank (c : Char) : Bool :=
  let n := c.toNat
  (0x09 ≤ n && n ≤ 0x0D) || n = 0x20 || n = 0x85 || n = 0xA0 || n = 0x1680
    || (0x2000 ≤ n && n ≤ 0x200A) || n = 0x2028 || n = 0x2029 || n = 0x202F || n = 0x205F
    || n = 0x3000

/-- Is a space, a tab or the end of a line or a page. -/
def isPlainBlank (c : Char) : Bool :=
  c = ' ' || ('\t' ≤ c && c ≤ '\x0d')

/-- Spaces in front of a line at a depth, two a level. -/
def indent (depth : Nat) : String :=
  String.ofList (List.replicate (2 * depth) ' ')

/-- Without the blanks at its start. -/
def trimStart (cs : List Char) : List Char :=
  cs.dropWhile isBlank

/-- Without the blanks at its end. -/
def trimEnd (cs : List Char) : List Char :=
  (cs.reverse.dropWhile isBlank).reverse

/-- Without the blanks at either end. -/
def trim (cs : List Char) : List Char :=
  trimEnd (trimStart cs)

/-- Adds a character in front of the first word. -/
def consWord (c : Char) : List (List Char) → List (List Char)
  | [] => [[c]]
  | w :: ws => (c :: w) :: ws

/-- The maximal runs of other characters between blanks, in order. -/
def words : List Char → List (List Char)
  | [] => []
  | [c] => if isBlank c then [] else [[c]]
  | c :: d :: rest =>
    if isBlank c then words (d :: rest)
    else if isBlank d then [c] :: words (d :: rest)
    else consWord c (words (d :: rest))

theorem consWord_flatten (c : Char) (ws : List (List Char)) :
    (consWord c ws).flatten = c :: ws.flatten := by
  cases ws <;> simp [consWord]

/-- Splitting at blanks loses blanks only. -/
theorem words_flatten (cs : List Char) :
    (words cs).flatten = cs.filter fun c => !isBlank c := by
  fun_induction words cs <;> simp_all [consWord_flatten]

end Egress.Text

/-- Without the blanks at its start and end. -/
def String.trimBlank (s : String) : String :=
  String.ofList (Egress.Text.trim s.toList)

/-- Without the blanks at its end. -/
def String.trimBlankEnd (s : String) : String :=
  String.ofList (Egress.Text.trimEnd s.toList)
