import SqlGateway.Number.Float

/-! The fewest decimal digits that read back as the same floating-point number, and of those the
    nearest to it.

    The reals that round to a number form an interval around it; its ends belong to it when the
    mantissa is even. On the grid of decimals with `n` significant digits only the two neighbours of
    the number can be the nearest member of the interval, so the search tests those two for
    `n = 1, 2, … 17` and stops at the first grid with a hit. An exact tie of two hits goes as the
    printing format says. -/

namespace SqlGateway.Number

/-- A positive decimal `digits · 10^exponent`. -/
structure DecimalDigits where
  digits : Nat
  exponent : Int
  deriving DecidableEq, Repr

/-- Number of digits before the point of the positive quotient `num / den`, which is zero or less
    below a tenth. -/
def pointPosition (num den : Nat) : Int :=
  let guess : Int := (digitCount num : Int) - digitCount den
  let below : Bool :=
    if 0 ≤ guess then num < den * Nat.pow 10 guess.toNat else num * Nat.pow 10 (-guess).toNat < den
  if below then guess else guess + 1

/-- The interval of reals that round to a number, over one denominator: lower end, the number,
    upper end, and whether the ends belong to it. -/
structure Interval where
  low : Nat
  mid : Nat
  high : Nat
  den : Nat
  closed : Bool

/-- Interval of a positive finite number. Below a power of two the spacing halves, except at the
    bottom of the range. -/
def Interval.of (f : Format) (mantissa : Nat) (exponent : Int) : Interval :=
  let halved := mantissa = Nat.pow 2 f.fractionBits ∧ f.lowestExponent < exponent
  let quarters := exponent - 2
  let (num, den) : Nat × Nat :=
    if 0 ≤ quarters then (Nat.pow 2 quarters.toNat, 1) else (1, Nat.pow 2 (-quarters).toNat)
  { low := num * (4 * mantissa - (if halved then 1 else 2))
    mid := num * (4 * mantissa)
    high := num * (4 * mantissa + 2)
    den := den
    closed := mantissa % 2 = 0 }

/-- Does `digits · 10^exponent` lie in the interval? -/
def Interval.holds (i : Interval) (digits : Nat) (exponent : Int) : Bool :=
  let (value, scale) : Nat × Nat :=
    if 0 ≤ exponent then (digits * Nat.pow 10 exponent.toNat * i.den, 1)
    else (digits * i.den, Nat.pow 10 (-exponent).toNat)
  if i.closed then i.low * scale ≤ value && value ≤ i.high * scale
  else i.low * scale < value && value < i.high * scale

/-- The member nearest to the middle among the two neighbours on the grid of `10^exponent`. -/
def Interval.nearest (i : Interval) (tie : Tie) (exponent : Int) : Option Nat :=
  let (num, den) : Nat × Nat :=
    if 0 ≤ exponent then (i.mid, i.den * Nat.pow 10 exponent.toNat)
    else (i.mid * Nat.pow 10 (-exponent).toNat, i.den)
  let below := num / den
  let up := roundsUp tie below (num % den) den
  match i.holds below exponent, i.holds (below + 1) exponent with
  | true, true => some (if up then below + 1 else below)
  | true, false => some below
  | false, true => some (below + 1)
  | false, false => none

/-- Grids from `count` digits on, `fuel` of them. -/
def Interval.search (i : Interval) (tie : Tie) (point : Int) : Nat → Nat → DecimalDigits
  | 0, _ => ⟨i.mid / i.den, 0⟩
  | fuel + 1, count =>
    match i.nearest tie (point - count) with
    | some digits => ⟨digits, point - count⟩
    | none => i.search tie point fuel (count + 1)

/-- Remove the zeros at the end of the digits, at most `fuel` of them. -/
def DecimalDigits.trim : Nat → DecimalDigits → DecimalDigits
  | 0, d => d
  | fuel + 1, d =>
    if d.digits ≠ 0 ∧ d.digits % 10 = 0 then trim fuel ⟨d.digits / 10, d.exponent + 1⟩ else d

/-- Shortest digits of the positive number `mantissa · 2^exponent` of a format. -/
def shortest (f : Format) (tie : Tie) (mantissa : Nat) (exponent : Int) : DecimalDigits :=
  let i := Interval.of f mantissa exponent
  (i.search tie (pointPosition i.mid i.den) 20 1).trim 20

end SqlGateway.Number
