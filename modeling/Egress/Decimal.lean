/-!
# Decimal text of a double

`shortest` writes a double with the fewest digits that read back as the same double, the nearest of
those to it (of two equally near ones the one farther from zero), always positionally: no exponent,
and no point when the value is whole.
`ofDecimal` is the double nearest to a decimal.

A finite double other than zero is `m · 2^q`. The numbers that round to it lie between the
midpoints to its neighbours, ends included when `m` is even; in units of `2^(q-2)` the double is
`4 m` and its interval runs from `4 m - 2` (`4 m - 1` above a power of two) to `4 m + 2`. If the
grid of multiples of `10^k` meets that interval, then one of the two grid points around the double
lies in it, so it is enough to test those, from the coarsest grid on.
-/

set_option autoImplicit false

namespace Egress.Decimal

/-- A double's value and the interval of numbers that round to it, in units of `2^unit`. -/
structure Interval where
  value : Nat
  low : Nat
  high : Nat
  /-- Exponent of the unit. -/
  unit : Int
  /-- Whether the ends belong to it. -/
  closed : Bool

/-- Interval of the double with this exponent field and fraction (not both zero). -/
def Interval.ofFields (exponent fraction : Nat) : Interval :=
  let m := if exponent = 0 then fraction else fraction + Nat.pow 2 52
  let q : Int := (if exponent = 0 then 1 else (exponent : Int)) - 1075
  { value := 4 * m
    low := if fraction = 0 && 1 < exponent then 4 * m - 1 else 4 * m - 2
    high := 4 * m + 2
    unit := q - 2
    closed := m % 2 = 0 }

/-- Decimal digits of a number before its last non-zero digit, and the zeros after it; `fuel`
bounds them. -/
def stripZeros : Nat → Nat → Int → Nat × Int
  | 0, d, k => (d, k)
  | fuel + 1, d, k => if d % 10 = 0 && d ≠ 0 then stripZeros fuel (d / 10) (k + 1) else (d, k)

/-- Least `j` with `a · 10^j ≥ b`, up to `fuel`. -/
def scaleUp : Nat → Nat → Nat → Nat
  | 0, _, _ => 0
  | fuel + 1, a, b => if b ≤ a then 0 else scaleUp fuel (a * 10) b + 1

namespace Interval

/-- Factor of `2^unit` as a whole number. -/
def binaryUp (i : Interval) : Nat := Nat.pow 2 i.unit.toNat

/-- Divisor of `2^unit` as a whole number. -/
def binaryDown (i : Interval) : Nat := Nat.pow 2 (-i.unit).toNat

/-- Exponent of the leading decimal digit of the value. -/
def leading (i : Interval) : Int :=
  let whole := i.value * i.binaryUp / i.binaryDown
  if 0 < whole then ((Nat.toDigits 10 whole).length : Int) - 1
  else -(scaleUp 400 i.value i.binaryDown : Int)

/-- Whether `d · 10^k` rounds to the double; `a` and `b` are the two sides' scales. -/
def holds (i : Interval) (a b d : Nat) : Bool :=
  if i.closed then i.low * b ≤ d * a && d * a ≤ i.high * b
  else i.low * b < d * a && d * a < i.high * b

/-- The multiple of `10^k` nearest to the value that rounds to the double, if there is one; of two
equally near ones the larger. -/
def onGrid (i : Interval) (k : Int) : Option Nat :=
  let a := Nat.pow 10 k.toNat * i.binaryDown
  let b := i.binaryUp * Nat.pow 10 (-k).toNat
  let d := i.value * b / a
  let below := i.holds a b d
  let above := i.holds a b (d + 1)
  if below && above then
    if i.value * b - d * a < (d + 1) * a - i.value * b then some d else some (d + 1)
  else if below then some d
  else if above then some (d + 1)
  else none

/-- First grid with a hit among those of `n`, `n - 1`, … more digits. -/
def search (i : Interval) : Nat → Int → Nat × Int
  | 0, k => ((i.onGrid k).getD 0, k)
  | n + 1, k => match i.onGrid k with
    | some d => (d, k)
    | none => search i n (k - 1)

/-- Digits and exponent of the shortest decimal: `d · 10^k`. -/
def digits (i : Interval) : Nat × Int :=
  let (d, k) := i.search 20 i.leading
  stripZeros 400 d k

end Interval

/-- The number `d · 10^k` written positionally. -/
def positional (d : Nat) (k : Int) : String :=
  let ds := Nat.toDigits 10 d
  if 0 ≤ k then String.ofList (ds ++ List.replicate k.toNat '0')
  else
    let places := (-k).toNat
    let ds := List.replicate (places + 1 - ds.length) '0' ++ ds
    String.ofList (ds.take (ds.length - places) ++ ['.'] ++ ds.drop (ds.length - places))

/-- The fewest digits that read back as the same double, without an exponent. -/
def shortest (x : Float) : String :=
  let bits := x.toBits.toNat
  let fraction := bits % Nat.pow 2 52
  let exponent := bits / Nat.pow 2 52 % Nat.pow 2 11
  let sign := if bits / Nat.pow 2 63 = 1 then "-" else ""
  if exponent = 2047 then if fraction = 0 then sign ++ "inf" else "NaN"
  else if exponent = 0 && fraction = 0 then sign ++ "0"
  else
    let (d, k) := (Interval.ofFields exponent fraction).digits
    sign ++ positional d k

/-- Positive infinity. -/
def infinity : Float := 1.0 / 0.0

/-- Not a number. -/
def notANumber : Float := 0.0 / 0.0

/-- The double nearest to `mantissa · 10^exponent`. Exponents far outside the range of doubles are
settled by their size. -/
def ofDecimal (mantissa : Nat) (exponent : Int) : Float :=
  let size := ((Nat.toDigits 10 mantissa).length : Int) + exponent
  if mantissa = 0 || size < -400 then 0.0
  else if 400 < size then infinity
  else if exponent < 0 then Float.ofScientific mantissa true exponent.natAbs
  else Float.ofScientific mantissa false exponent.natAbs

end Egress.Decimal
