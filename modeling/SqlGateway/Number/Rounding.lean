/-! Rounding a quotient of natural numbers to the nearest natural number. Every conversion of this
    library between integers, decimals and binary floats is one such rounding; a tie goes to the
    even neighbour, or upwards where a format says so.

        7/2 = 3.5   toEven ▶ 4        5/2 = 2.5   toEven ▶ 2   up ▶ 3                             -/

namespace SqlGateway.Number

/-- Where a quotient exactly half way between two integers goes. -/
inductive Tie where
  | toEven
  | up
  deriving DecidableEq, Repr

/-- Does a rest of `r` out of `d` above `q` round up? -/
def roundsUp (tie : Tie) (q r d : Nat) : Bool :=
  if 2 * r < d then false
  else if d < 2 * r then true
  else match tie with
    | .toEven => q % 2 == 1
    | .up => true

/-- The integer nearest to `n / d`. -/
def roundDiv (tie : Tie) (n d : Nat) : Nat :=
  if roundsUp tie (n / d) (n % d) d then n / d + 1 else n / d

/-- Number of decimal digits of a natural number; one for zero. -/
def digitCount (n : Nat) : Nat := (Nat.toDigits 10 n).length

/-- Decimal digits of a natural number as a text. -/
def natText (n : Nat) : String := String.ofList (Nat.toDigits 10 n)

/-- Decimal text of an integer: a minus sign if negative, no plus sign, no leading zeros. -/
def intText (i : Int) : String :=
  if i < 0 then "-" ++ natText i.natAbs else natText i.natAbs

/-- Decimal digits of `n`, with zeros in front up to `width` characters. -/
def padded (width n : Nat) : String :=
  let ds := Nat.toDigits 10 n
  String.ofList (List.replicate (width - ds.length) '0' ++ ds)

/-- Rounding is exact on multiples of the divisor. -/
theorem roundDiv_mul (tie : Tie) (q : Nat) {d : Nat} (h : 0 < d) : roundDiv tie (q * d) d = q := by
  simp [roundDiv, roundsUp, Nat.mul_div_cancel q h, h]

end SqlGateway.Number
