import Egress.Document.Lexeme
import Egress.Document.Value

/-!
# Numbers, dates and truth values of a document

Readers for the values that start with a digit, a sign or a letter. A value that starts like a date
or a time is one; else it is a float if a fraction or an exponent follows its digits, and an integer
otherwise. Integers have 64 bits; a float too large for a double is refused when it is positive.
-/

set_option autoImplicit false

namespace Egress.Document

/-! ## Dates and times -/

/-- A number of exactly `n` decimal digits between two bounds. -/
def fixed? (n low high : Nat) : Reader Nat := fun cs =>
  let ds := cs.take n
  if ds.length = n then
    (Text.natural? 10 ds).bind fun v => if low ≤ v && v ≤ high then some (v, cs.drop n) else none
  else none

/-- After the given character. -/
def char? (c : Char) : List Char → Option (List Char)
  | d :: rest => if d = c then some rest else none
  | [] => none

/-- The number in decimal with at least `width` digits. -/
def padded (width n : Nat) : String :=
  let ds := Nat.toDigits 10 n
  String.ofList (List.replicate (width - ds.length) '0' ++ ds)

/-- Days of a month. -/
def daysOf (year month : Nat) : Nat :=
  if month = 2 then
    if year % 4 = 0 && (year % 100 ≠ 0 || year % 400 = 0) then 29 else 28
  else if month = 4 || month = 6 || month = 9 || month = 11 then 30
  else 31

/-- A date, `year-month-day`. -/
def date? : Reader String := fun cs => do
  let (year, cs) ← fixed? 4 0 9999 cs
  let cs ← char? '-' cs
  let (month, cs) ← fixed? 2 1 12 cs
  let cs ← char? '-' cs
  let (day, cs) ← fixed? 2 1 (daysOf year month) cs
  some (padded 4 year ++ "-" ++ padded 2 month ++ "-" ++ padded 2 day, cs)

/-- Digits of a fraction of a second, at most nine and without zeros at the end. -/
def fraction? : Reader String := fun cs => do
  let cs ← char? '.' cs
  let ds := cs.takeWhile Char.isDigit
  if ds.isEmpty then none
  else
    let kept := ((ds.take 9).reverse.dropWhile (· = '0')).reverse
    some (if kept.isEmpty then "" else String.ofList ('.' :: kept), cs.dropWhile Char.isDigit)

/-- A time of day, `hour:minute:second` with an optional fraction. -/
def time? : Reader String := fun cs => do
  let (hour, cs) ← fixed? 2 0 23 cs
  let cs ← char? ':' cs
  let (minute, cs) ← fixed? 2 0 59 cs
  let cs ← char? ':' cs
  let (second, cs) ← fixed? 2 0 60 cs
  let (fraction, cs) := (fraction? cs).getD ("", cs)
  some (padded 2 hour ++ ":" ++ padded 2 minute ++ ":" ++ padded 2 second ++ fraction, cs)

/-- An offset from universal time; `none` when one begins and is malformed. -/
def offset? : Reader String
  | 'Z' :: cs => some ("Z", cs)
  | 'z' :: cs => some ("Z", cs)
  | '+' :: cs => hours "+" cs
  | '-' :: cs => hours "-" cs
  | cs => some ("", cs)
where
  hours (sign : String) : Reader String := fun cs => do
    let (hour, cs) ← fixed? 2 0 23 cs
    let cs ← char? ':' cs
    let (minute, cs) ← fixed? 2 0 59 cs
    let sign := if hour = 0 && minute = 0 then "+" else sign
    some (sign ++ padded 2 hour ++ ":" ++ padded 2 minute, cs)

/-- A date with the time after it, if a time follows. -/
def dateTime? : Reader String := fun cs => do
  let (date, cs) ← date? cs
  let after := match cs with
    | c :: rest => if c = 'T' || c = 't' || c = ' ' then time? rest else none
    | [] => none
  match after with
  | none => some (date, cs)
  | some (time, cs) =>
    let (offset, cs) ← offset? cs
    some (date ++ "T" ++ time ++ offset, cs)

/-! ## Numbers -/

/-- Digits with single underscores between them, and the underscores left out. -/
def digitRun? (isDigit : Char → Bool) : Reader (List Char)
  | [] => none
  | c :: rest =>
    if isDigit c then
      match rest with
      | '_' :: rest => (digitRun? isDigit rest).map fun (ds, rest) => (c :: ds, rest)
      | rest => match digitRun? isDigit rest with
        | some (ds, rest) => some (c :: ds, rest)
        | none => if startsBroken rest then none else some ([c], rest)
    else none
where
  /-- Whether a digit is ahead, so that a failure lies further on. -/
  startsBroken : List Char → Bool
    | d :: _ => isDigit d
    | [] => false

/-- Whether a number is negative, after an optional sign. -/
def sign : List Char → Bool × List Char
  | '-' :: rest => (true, rest)
  | '+' :: rest => (false, rest)
  | rest => (false, rest)

/-- Digits of a decimal integer: no zero in front of others. -/
def decimalRun? : Reader (List Char)
  | '0' :: rest => some (['0'], rest)
  | cs => digitRun? Char.isDigit cs

/-- A signed number as an integer of 64 bits. -/
def integerOf? (negative : Bool) (n : Nat) : Option Value :=
  let v : Int := if negative then -(n : Int) else (n : Int)
  if Text.minInteger ≤ v && v ≤ Text.maxInteger then some (.integer v) else none

/-- An integer in base sixteen, eight or two after its two-letter mark. -/
def basedInteger? (base : Nat) : Reader Value := fun cs => do
  let (ds, rest) ← digitRun? (fun c => (Text.digit? base c).isSome) cs
  let n ← Text.natural? base ds
  let v ← integerOf? false n
  some (v, rest)

/-- The fraction of a float: its digits, none when no point is ahead. -/
def fractionRun? : Reader (List Char)
  | '.' :: rest => digitRun? Char.isDigit rest
  | rest => some ([], rest)

/-- The exponent of a float, zero when none is ahead. -/
def exponent? (cs : List Char) : Option (Int × List Char) :=
  match cs with
  | c :: rest =>
    if c = 'e' || c = 'E' then do
      let (negative, rest) := sign rest
      let (ds, rest) ← digitRun? Char.isDigit rest
      let n ← Text.natural? 10 ds
      some (if negative then -(n : Int) else (n : Int), rest)
    else some (0, cs)
  | [] => some (0, cs)

/-- A signed double. -/
def signed (negative : Bool) (x : Float) : Float :=
  if negative then -x else x

/-- A decimal integer or a float. -/
def decimal? (negative : Bool) : Reader Value := fun cs => do
  let (whole, rest) ← decimalRun? cs
  match rest with
  | c :: _ =>
    if c = '.' || c = 'e' || c = 'E' then
      let (fraction, rest) ← fractionRun? rest
      let (exponent, rest) ← exponent? rest
      let mantissa ← Text.natural? 10 (whole ++ fraction)
      let x := Decimal.ofDecimal mantissa (exponent - fraction.length)
      if !negative && x == Decimal.infinity then none
      else some (.float (signed negative x), rest)
    else integer whole rest
  | [] => integer whole rest
where
  integer (whole : List Char) (rest : List Char) : Option (Value × List Char) := do
    let n ← Text.natural? 10 whole
    let v ← integerOf? negative n
    some (v, rest)

/-- A number with its sign. -/
def number? : Reader Value
  | '0' :: 'x' :: rest => basedInteger? 16 rest
  | '0' :: 'o' :: rest => basedInteger? 8 rest
  | '0' :: 'b' :: rest => basedInteger? 2 rest
  | cs =>
    let (negative, rest) := sign cs
    match rest with
    | 'i' :: 'n' :: 'f' :: rest => some (.float (signed negative Decimal.infinity), rest)
    | 'n' :: 'a' :: 'n' :: rest => some (.float (signed negative Decimal.notANumber), rest)
    | rest => decimal? negative rest

/-- A date, time, number or truth value. -/
def scalar? : Reader Value
  | 't' :: 'r' :: 'u' :: 'e' :: rest => some (.boolean true, rest)
  | 'f' :: 'a' :: 'l' :: 's' :: 'e' :: rest => some (.boolean false, rest)
  | cs => match dateTime? cs with
    | some (s, rest) => some (.datetime s, rest)
    | none => match time? cs with
      | some (s, rest) => some (.datetime s, rest)
      | none => number? cs

end Egress.Document
