import Egress.Text.Emoji
import Egress.Text.Width

/-!
# Columns of a line

How many terminal columns a line takes. Mostly that is the sum of its characters' columns, but some
characters join with what follows them: a picture and its selector, skin tone or joined pictures,
the letters of a flag before a joiner, lam before alef, and the ligatures of a few scripts. The line
is read from its end, and what was read decides what the character before it takes (`before`).
-/

set_option autoImplicit false

namespace Egress.Text

/-- Letters that the letters before them join. -/
inductive Joining where
  | lamed
  | ya
  /-- Buginese `ya` with the vowel sign before its joiner. -/
  | yaWithVowel
  | tifinagh
  /-- A consonant of Tifinagh behind its joiner. -/
  | tifinaghJoined
  | lisuTone
  | orkhon
  /-- A letter of Khmer that can stand below another. -/
  | belowLetter
  | vowelE
  | vowelAi
  deriving DecidableEq

/-- How many letters of flags stand before a joiner. -/
inductive Parity where
  | one
  | even
  | odd
  deriving DecidableEq

/-- What has been read of the tags of a subdivision's flag, their end first. -/
inductive Tags where
  | none
  | letters (n : Nat)
  | digits (n : Nat)
  deriving DecidableEq

/-- What a line goes on with, as far as that matters to the character before it. -/
inductive Ahead where
  | other
  | skinTone
  | flagLetter
  | flagLetters
  | picture
  /-- A joiner and a picture. -/
  | joined
  /-- The same after the sign of a key's frame. -/
  | joinedKey
  | joinedFlag (p : Parity)
  | joinedTags (t : Tags)
  | alef
  /-- A letter that joins; whether joiners came before it. -/
  | letter (l : Joining) (joiner : Bool)
  deriving DecidableEq

/-- The form that a selector asks of the character before it. -/
inductive Style where
  | picture
  | text
  deriving DecidableEq

/-- What a line goes on with, and the selector in front of it. -/
structure Following where
  ahead : Ahead := .other
  style : Option Style := none
  deriving DecidableEq

/-! ## Classes of characters -/

/-- The joiner of no width. -/
def joiner : Char := '\u200D'

/-- Marks that ligatures do not mind. -/
def isIgnorableMark (c : Char) : Bool :=
  inRanges [(0x34F, 0x34F), (0x17B4, 0x17B5), (0x180B, 0x180D), (0x180F, 0x180F), (0xFE00, 0xFE0F),
    (0xE0100, 0xE01EF)] c.toNat

/-- Code points of no column that keep Arabic letters from joining. -/
def dividing : List (Nat × Nat) := [
  (0x605, 0x605), (0x890, 0x891), (0x8E2, 0x8E2), (0x9BE, 0x9BE), (0x9D7, 0x9D7), (0xB3E, 0xB3E),
  (0xB57, 0xB57), (0xBBE, 0xBBE), (0xBD7, 0xBD7), (0xCC0, 0xCC0), (0xCC2, 0xCC2), (0xCC7, 0xCC8),
  (0xCCA, 0xCCB), (0xCD5, 0xCD6), (0xD3E, 0xD3E), (0xD4E, 0xD4E), (0xD57, 0xD57), (0xDCF, 0xDCF),
  (0xDDF, 0xDDF), (0x1160, 0x11FF), (0x1715, 0x1715), (0x1734, 0x1734), (0x180E, 0x180E),
  (0x1B35, 0x1B35), (0x1B3B, 0x1B3B), (0x1B3D, 0x1B3D), (0x1B43, 0x1B44), (0x1BAA, 0x1BAA),
  (0x1BF2, 0x1BF3), (0x200C, 0x200D), (0x2065, 0x2069), (0x302E, 0x302F), (0x3164, 0x3164),
  (0xA8FA, 0xA8FA), (0xA953, 0xA953), (0xA9C0, 0xA9C0), (0xD7B0, 0xD7C6), (0xD7CB, 0xD7FB),
  (0xFF9E, 0xFFA0), (0xFFF0, 0xFFF8), (0x111C0, 0x111C0), (0x111C2, 0x111C3), (0x11235, 0x11235),
  (0x1133E, 0x1133E), (0x1134D, 0x1134D), (0x11357, 0x11357), (0x113D1, 0x113D1),
  (0x114B0, 0x114B0), (0x114BD, 0x114BD), (0x115AF, 0x115AF), (0x116B6, 0x116B6),
  (0x11930, 0x11930), (0x1193D, 0x1193D), (0x1193F, 0x1193F), (0x11941, 0x11941),
  (0x11A3A, 0x11A3A), (0x11A84, 0x11A89), (0x11D46, 0x11D46), (0x11F02, 0x11F02),
  (0x11F41, 0x11F41), (0x16FF0, 0x16FF1), (0x1D165, 0x1D166), (0x1D16D, 0x1D172),
  (0xE0000, 0xE0000), (0xE0002, 0xE001F), (0xE0080, 0xE00FF), (0xE01F0, 0xE0FFF)]

/-- A mark that Arabic letters join across. -/
def isTransparent (c : Char) : Bool :=
  glyphColumns c = 0 && !inRanges dividing c.toNat

/-- Lam and its relatives. -/
def isLam (c : Char) : Bool :=
  inRanges [(0x644, 0x644), (0x6B5, 0x6B8), (0x76A, 0x76A), (0x8A6, 0x8A6), (0x8C7, 0x8C7)] c.toNat

/-- Alef and its relatives. -/
def isAlef (c : Char) : Bool :=
  inRanges [(0x622, 0x623), (0x625, 0x625), (0x627, 0x627), (0x671, 0x673), (0x675, 0x675),
    (0x773, 0x774), (0x870, 0x882)] c.toNat

/-- Consonants of Tifinagh. -/
def isTifinagh (c : Char) : Bool :=
  inRanges [(0x2D31, 0x2D65), (0x2D6F, 0x2D6F)] c.toNat

/-- Letters of Khmer that can stand below another. -/
def standsBelow (c : Char) : Bool :=
  inRanges [(0x1780, 0x1782), (0x1784, 0x1787), (0x1789, 0x178C), (0x178E, 0x1793),
    (0x1795, 0x1798), (0x179B, 0x179D), (0x17A0, 0x17A0), (0x17A2, 0x17A2), (0x17A7, 0x17A7),
    (0x17AB, 0x17AC), (0x17AF, 0x17AF)] c.toNat

/-- The letter that joins with those before it, if the character is one. -/
def joining? (c : Char) : Option Joining :=
  if c = '\u05DC' then some .lamed
  else if c = '\u1A10' then some .ya
  else if isTifinagh c then some .tifinagh
  else if c = '\uA4FC' || c = '\uA4FD' then some .lisuTone
  else if c = Char.ofNat 0x10C03 then some .orkhon
  else if standsBelow c then some .belowLetter
  else if c = Char.ofNat 0x16D67 then some .vowelE
  else if c = Char.ofNat 0x16D68 then some .vowelAi
  else none

/-! ## Reading backwards -/

/-- What a character by itself makes of the rest of the line. -/
def aheadOf (c : Char) : Ahead :=
  if isSkinTone c then .skinTone
  else if isFlagLetter c then .flagLetter
  else if isPicture c then .picture
  else if isAlef c then .alef
  else match joining? c with
    | some l => .letter l false
    | none => .other

/-- Columns of a character that joins with nothing, and the line from it on. -/
def alone (c : Char) : Int × Following :=
  if c = '\uFE0F' then (0, { style := some .picture })
  else if c = '\uFE0E' then (0, { style := some .text })
  else (glyphColumns c, { ahead := aheadOf c })

/-- The line with a selector in front. Letters and joined pictures stay in sight behind it. -/
def Ahead.styled (s : Style) : Ahead → Following
  | .alef => ⟨.alef, some s⟩
  | .letter l j => ⟨.letter l j, some s⟩
  | .joined => ⟨if s = .picture then .joined else .other, some s⟩
  | .joinedKey => ⟨if s = .picture then .joinedKey else .other, some s⟩
  | _ => ⟨.other, some s⟩

/-- The line when the selector in front of it had nothing to select. -/
def Ahead.unstyled : Ahead → Ahead
  | .alef => .alef
  | .letter l j => .letter l j
  | _ => .other

/-- Columns that joining a letter with the ones ahead adds, and the line from it on. -/
def joinLetter? (c : Char) : Joining → Bool → Option (Int × Ahead)
  | .lamed, true => if c = '\u05D0' then some (0, .other) else none
  | .ya, true => if c = '\u1A17' then some (0, .letter .yaWithVowel true) else none
  | .yaWithVowel, _ => if c = '\u1A15' then some (0, .other) else none
  | .tifinagh, j =>
    if c = '\u2D7F' then some (1, .letter .tifinaghJoined true)
    else if j && isTifinagh c then some (0, .other) else none
  | .tifinaghJoined, _ => if isTifinagh c then some (-1, .other) else none
  | .lisuTone, _ => if '\uA4F8' ≤ c && c ≤ '\uA4FB' then some (0, .other) else none
  | .orkhon, true => if c = Char.ofNat 0x10C32 then some (0, .other) else none
  | .belowLetter, _ => if c = '\u17D2' then some (-1, .other) else none
  | .vowelE, _ =>
    if c = Char.ofNat 0x16D63 || c = Char.ofNat 0x16D69 then some (0, .other)
    else if c = Char.ofNat 0x16D67 then some (0, .letter .vowelAi false)
    else if c = Char.ofNat 0x16D68 then some (1, .letter .vowelE false) else none
  | .vowelAi, _ => if c = Char.ofNat 0x16D63 then some (0, .other) else none
  | _, _ => none

/-- One more tag, or the flag that the tags belong to. -/
def joinTag? (c : Char) : Tags → Option Ahead
  | .none => next 0 c
  | .letters n =>
    if 3 ≤ n && c = '🏴' then some .picture
    else if n < 5 then next n c
    else if n = 5 && isLetter c then some (.joinedTags (.letters 6)) else none
  | .digits n =>
    if n = 3 && c = '🏴' then some .picture
    else if n < 3 && isDigit c then some (.joinedTags (.digits (n + 1))) else none
where
  isLetter (c : Char) : Bool := 0xE0061 ≤ c.toNat && c.toNat ≤ 0xE007A
  isDigit (c : Char) : Bool := 0xE0030 ≤ c.toNat && c.toNat ≤ 0xE0039
  next (n : Nat) (c : Char) : Option Ahead :=
    if isLetter c then some (.joinedTags (.letters (n + 1)))
    else if isDigit c then some (.joinedTags (.digits 1)) else none

/-- Columns that a character in front of a joiner and a picture adds, and the line from it on. -/
def joinPicture? (c : Char) : Option (Int × Ahead) :=
  if c = '\u20E3' then some (0, .joinedKey)
  else if isFlagLetter c then some (1, .joinedFlag .one)
  else if isSkinTone c then some (0, .skinTone)
  else if c = Char.ofNat 0xE007F then some (0, .joinedTags .none)
  else if isPicture c then some (0, .picture)
  else none

/-- Columns that a character adds by joining what is ahead, and the line from it on. -/
def join? (c : Char) (ahead : Ahead) : Option (Int × Ahead) :=
  match ahead with
  | .other => none
  | .alef =>
    if isLam c then some (0, .other) else if isTransparent c then some (0, .alef) else none
  | .letter l j =>
    if c = joiner then some (0, .letter l true)
    else if isIgnorableMark c then some (0, .letter l j)
    else joinLetter? c l j
  | .skinTone =>
    if takesSkinTone c then some (0, .picture) else if c = joiner then some (0, .joined) else none
  | .picture => if c = joiner then some (0, .joined) else none
  | .flagLetter => if isFlagLetter c then some (1, .flagLetters) else none
  | .flagLetters =>
    if isFlagLetter c then some (1, .flagLetters)
    else if c = joiner then some (0, .joined) else none
  | .joined => joinPicture? c
  | .joinedKey => none
  | .joinedFlag p =>
    if isFlagLetter c then
      some (match p with
        | .even => (3, .joinedFlag .odd)
        | _ => (-1, .joinedFlag .even))
    else if c = joiner && p ≠ .one then some (0, .joined) else none
  | .joinedTags t => (joinTag? c t).map fun a => (0, a)

/-- Columns that a character adds to a line without a selector in front. -/
def beforeUnstyled (c : Char) (ahead : Ahead) : Int × Following :=
  if c.toNat < 0xA1 then (1, {})
  else if ahead = .other then alone c
  else if c = '\uFE0F' then (0, ahead.styled .picture)
  else if c = '\uFE0E' then (0, ahead.styled .text)
  else match join? c ahead with
    | some (n, ahead) => (n, { ahead })
    | none => alone c

/-- Columns that a character adds to the line that follows it, and the line from it on. -/
def before (c : Char) (f : Following) : Int × Following :=
  match f.style with
  | some .picture =>
    if takesPictureStyle c then
      (if f.ahead = .joined || f.ahead = .joinedKey then 0 else 2, { ahead := .picture })
    else beforeUnstyled c f.ahead.unstyled
  | some .text =>
    if takesTextStyle c then (1, {}) else beforeUnstyled c f.ahead.unstyled
  | none => beforeUnstyled c f.ahead

/-- Columns of a line. A control takes one. -/
def columns (line : List Char) : Nat :=
  (line.foldr (fun c (total, f) =>
    let (n, f) := before c f
    (total + n, f)) ((0 : Int), ({} : Following))).1.toNat

end Egress.Text
