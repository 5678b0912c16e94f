import SqlGateway.Number.Integer

/-! Exact decimals with a mantissa below 2^96 and up to 28 places.

    A decimal keeps the places it was given (`12.50` has two). Reading takes digits until the places
    or the mantissa are exhausted; the digit after the last one kept rounds it, half upwards, and
    what follows is not looked at. The scientific form shifts the point and keeps as many places as
    remain; beyond the mantissa or the places it fails.

        12.50  ▶ 1250 / 10^2        1.50e1 ▶ 150 / 10^1        1.5e3 ▶ 1500 / 10^0               -/

namespace SqlGateway.Number

/-- `± mantissa / 10^scale`. -/
structure Decimal where
  negative : Bool
  mantissa : Nat
  scale : Nat
  deriving DecidableEq, Repr

namespace Decimal

/-- First mantissa that does not fit. -/
def capacity : Nat := Nat.pow 2 96

/-- Most places a decimal can have. -/
def maxScale : Nat := 28

/-- A decimal from its parts; zero has no sign. -/
def make (negative : Bool) (mantissa scale : Nat) : Decimal :=
  ⟨negative && mantissa != 0, mantissa, scale⟩

/-- An integer of up to 96 bits. -/
def ofInt (i : Int) : Decimal := make (i < 0) i.natAbs 0

/-- Digits read so far. -/
structure Progress where
  mantissa : Nat
  scale : Nat
  pointed : Bool
  started : Bool

/-- Value of a character where the digit after the last one kept is expected. -/
def roundingDigit? (c : Char) : Option Nat :=
  if isDigit c then some (c.toNat - '0'.toNat)
  else if c = '_' ∨ c = '.' then some 0
  else none

/-- Round by the digit `c` after the last one kept. -/
def finish (negative : Bool) (p : Progress) (c : Char) : Option Decimal :=
  (roundingDigit? c).bind fun digit =>
    if digit < 5 then some (make negative p.mantissa p.scale)
    else if p.mantissa + 1 < capacity then some (make negative (p.mantissa + 1) p.scale)
    else if p.scale = 0 then none
    else some (make negative ((p.mantissa + 5) / 10) (p.scale - 1))

/-- Read digits, one point and, after a digit, separating underscores. -/
def readDigits (negative : Bool) : Progress → List Char → Option Decimal
  | p, [] => if p.started then some (make negative p.mantissa p.scale) else none
  | p, c :: rest =>
    if p.pointed && p.scale == maxScale then finish negative p c
    else if isDigit c then
      let next := 10 * p.mantissa + (c.toNat - '0'.toNat)
      if next < capacity then
        readDigits negative ⟨next, if p.pointed then p.scale + 1 else 0, p.pointed, true⟩ rest
      else if p.pointed then finish negative p c
      else none
    else if c = '.' && !p.pointed then
      readDigits negative { p with pointed := true } rest
    else if c = '_' && p.started then readDigits negative p rest
    else none

/-- Read the positional form. -/
def read? (s : String) : Option Decimal :=
  let (negative, cs) := splitSign s.toList
  readDigits negative ⟨0, 0, false, false⟩ cs

/-- Shift the point of `d` to the right by `shift` places, if the result fits. -/
def shiftRight (d : Decimal) (shift : Nat) : Option Decimal :=
  if shift ≤ d.scale then some { d with scale := d.scale - shift }
  else if maxScale < shift then none
  else
    let mantissa := d.mantissa * Nat.pow 10 (shift - d.scale)
    if mantissa < capacity then some (make d.negative mantissa 0) else none

/-- Shift the point of `d` to the left by `shift` places, if the places suffice. -/
def shiftLeft (d : Decimal) (shift : Nat) : Option Decimal :=
  if d.scale + shift ≤ maxScale then some { d with scale := d.scale + shift } else none

/-- Read the scientific form: a positional form, `e` and an integer exponent. -/
def readScientific? (s : String) : Option Decimal :=
  let isMark (c : Char) : Bool := c == 'e' || c == 'E'
  let base := s.toList.takeWhile fun c => !isMark c
  match s.toList.dropWhile fun c => !isMark c with
  | [] => none
  | _ :: exponent =>
    (read? (String.ofList base)).bind fun d =>
      match exponent with
      | '-' :: ds => (readWord? 32 (String.ofList ds)).bind d.shiftLeft
      | ds => (readWord? 32 (String.ofList ds)).bind d.shiftRight

/-- Read either form. -/
def ofText? (s : String) : Option Decimal := (read? s).orElse fun _ => readScientific? s

/-- Half of a mantissa, `count` times over, as a mantissa and places. An odd mantissa becomes five
    times itself with one place more; where there is no room for that, its last bit is dropped. -/
def halved : Nat → Nat → Nat → Nat × Nat
  | 0, mantissa, places => (mantissa, places)
  | count + 1, mantissa, places =>
    if mantissa % 2 = 1 ∧ 5 * mantissa < capacity then halved count (5 * mantissa) (places + 1)
    else halved count (mantissa / 2) places

/-- Double of a mantissa, `count` times over, as a mantissa and zeros behind it. Where there is no
    room for the double, it is a fifth with one zero more. -/
def doubled : Nat → Nat → Nat → Nat × Nat
  | 0, mantissa, zeros => (mantissa, zeros)
  | count + 1, mantissa, zeros =>
    if 2 * mantissa < capacity then doubled count (2 * mantissa) zeros
    else doubled count (mantissa / 5) (zeros + 1)

/-- Round away the places beyond the most a decimal can have. A last digit that goes leaves a zero,
    whatever it was. -/
def fitPlaces : Nat → Nat → Nat × Nat
  | mantissa, 0 => (mantissa, 0)
  | mantissa, places + 1 =>
    if places + 1 ≤ maxScale then (mantissa, places + 1)
    else if mantissa < 10 then (0, 0)
    else fitPlaces (roundDiv .up mantissa 10) places

/-- Round away the last place as long as the mantissa calls for it. -/
def dropPlaces (drop : Nat → Bool) : Nat → Nat → Nat × Nat
  | mantissa, 0 => (mantissa, 0)
  | mantissa, places + 1 =>
    if drop mantissa then dropPlaces drop (roundDiv .up mantissa 10) places
    else (mantissa, places + 1)

/-- Mantissa and places of `mantissa / 2^count`: no more bits than a double has, unless that would
    cut an integer, and no zero at the end. -/
def ofFraction (mantissa count : Nat) : Nat × Nat :=
  let (exact, places) := halved count mantissa 0
  let (fitting, places) := fitPlaces exact places
  let (kept, places) := dropPlaces (fun m => Nat.pow 2 53 ≤ m) fitting places
  dropPlaces (fun m => m % 10 == 0) kept places

/-- A finite number as a decimal. An integer is itself, as long as doubling it does not leave the
    mantissa; a fraction is rounded to the bits that a double has; none beyond the mantissa. The
    sign stays, on a zero too. -/
def ofDouble? (x : Double) : Option Decimal :=
  match x.read with
  | .finite negative mantissa exponent =>
    if mantissa = 0 then some ⟨negative, 0, 0⟩
    else if 0 ≤ exponent then
      let (digits, zeros) := doubled exponent.toNat mantissa 0
      let whole := digits * Nat.pow 10 zeros
      if whole < capacity then some ⟨negative, whole, 0⟩ else none
    else
      let (digits, places) := ofFraction mantissa (-exponent).toNat
      some ⟨negative, digits, places⟩
  | _ => none

/-- Decimal text with exactly `scale` places. -/
def text (d : Decimal) : String :=
  let digits := padded (d.scale + 1) d.mantissa
  (if d.negative then "-" else "") ++ positional digits (-(d.scale : Int)) ""

end Decimal

end SqlGateway.Number
