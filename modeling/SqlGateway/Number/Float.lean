import SqlGateway.Number.Rounding

/-! Binary floating-point numbers, kept as their bit patterns so that every value of the wire and of
    a stored row has one representation and equality is decidable.

    A pattern of a format with `f` fraction bits and `e` exponent bits reads as

        sign │ exponent (e bits) │ fraction (f bits)          value = ± mantissa · 2^exponent

    and `Format.ofRatio` goes the other way: it rounds any quotient of naturals to the nearest
    pattern, ties to the even one. Conversions from integers, from decimals and between formats are
    all that one rounding. -/

namespace SqlGateway.Number

/-- Widths of a binary interchange format. -/
structure Format where
  fractionBits : Nat
  exponentBits : Nat
  deriving DecidableEq

/-- The 64-bit format. -/
def doubleFormat : Format := ⟨52, 11⟩

/-- The 32-bit format. -/
def singleFormat : Format := ⟨23, 8⟩

/-- What a bit pattern stands for. -/
inductive Reading where
  | nan
  | infinite (negative : Bool)
  | finite (negative : Bool) (mantissa : Nat) (exponent : Int)
  deriving DecidableEq, Repr

namespace Format

/-- Largest value of the exponent field, reserved for infinities and NaN. -/
def topExponent (f : Format) : Nat := Nat.pow 2 f.exponentBits - 1

/-- Exponent of two that belongs to the last fraction bit of a pattern with exponent field 1. -/
def lowestExponent (f : Format) : Int :=
  2 - Nat.pow 2 (f.exponentBits - 1) - f.fractionBits

/-- Pattern of the positive infinity. -/
def infinityBits (f : Format) : Nat := f.topExponent * Nat.pow 2 f.fractionBits

/-- Pattern of the sign alone. -/
def signBit (f : Format) (negative : Bool) : Nat :=
  if negative then Nat.pow 2 (f.fractionBits + f.exponentBits) else 0

/-- The quiet NaN without payload. -/
def nanBits (f : Format) : Nat := f.infinityBits + Nat.pow 2 (f.fractionBits - 1)

/-- Read a pattern. -/
def read (f : Format) (bits : Nat) : Reading :=
  let fraction := bits % Nat.pow 2 f.fractionBits
  let field := bits / Nat.pow 2 f.fractionBits % Nat.pow 2 f.exponentBits
  let negative := bits / Nat.pow 2 (f.fractionBits + f.exponentBits) % 2 == 1
  if field = f.topExponent then
    if fraction = 0 then .infinite negative else .nan
  else if field = 0 then .finite negative fraction f.lowestExponent
  else .finite negative (Nat.pow 2 f.fractionBits + fraction) (f.lowestExponent + field - 1)

/-- Exponent of two of the leading bit of the positive quotient `num / den`. -/
def leadingExponent (num den : Nat) : Int :=
  let guess : Int := (Nat.log2 num : Int) - Nat.log2 den
  let below : Bool :=
    if 0 ≤ guess then num < den * Nat.pow 2 guess.toNat else num * Nat.pow 2 (-guess).toNat < den
  if below then guess - 1 else guess

/-- Nearest pattern to `± num / den` for a positive `den`; beyond the largest one, an infinity. -/
def ofRatio (f : Format) (negative : Bool) (num den : Nat) : Nat :=
  if num = 0 then f.signBit negative
  else
    let unit := max (leadingExponent num den - f.fractionBits) f.lowestExponent
    let mantissa :=
      if 0 ≤ unit then roundDiv .toEven num (den * Nat.pow 2 unit.toNat)
      else roundDiv .toEven (num * Nat.pow 2 (-unit).toNat) den
    let bits := (unit - f.lowestExponent).toNat * Nat.pow 2 f.fractionBits + mantissa
    f.signBit negative + min bits f.infinityBits

/-- Nearest pattern to `± mantissa · 2^exponent`. -/
def ofScaled (f : Format) (negative : Bool) (mantissa : Nat) (exponent : Int) : Nat :=
  if 0 ≤ exponent then f.ofRatio negative (mantissa * Nat.pow 2 exponent.toNat) 1
  else f.ofRatio negative mantissa (Nat.pow 2 (-exponent).toNat)

/-- Nearest pattern to `± digits · 10^exponent`. A leading digit far outside the range of the format
    decides the result without forming the power. -/
def ofDecimal (f : Format) (negative : Bool) (digits : Nat) (exponent : Int) : Nat :=
  let leading : Int := digitCount digits + exponent
  if digits = 0 ∨ leading < -400 then f.signBit negative
  else if 400 < leading then f.signBit negative + f.infinityBits
  else if 0 ≤ exponent then f.ofRatio negative (digits * Nat.pow 10 exponent.toNat) 1
  else f.ofRatio negative digits (Nat.pow 10 (-exponent).toNat)

/-- Pattern of a reading. -/
def ofReading (f : Format) : Reading → Nat
  | .nan => f.nanBits
  | .infinite negative => f.signBit negative + f.infinityBits
  | .finite negative mantissa exponent => f.ofScaled negative mantissa exponent

end Format

/-- A 64-bit floating-point number. -/
structure Double where
  bits : UInt64
  deriving DecidableEq, Repr, Inhabited

/-- A 32-bit floating-point number. -/
structure Single where
  bits : UInt32
  deriving DecidableEq, Repr, Inhabited

namespace Double

def read (x : Double) : Reading := doubleFormat.read x.bits.toNat

def ofReading (r : Reading) : Double := ⟨(doubleFormat.ofReading r).toUInt64⟩

def ofRatio (negative : Bool) (num den : Nat) : Double :=
  ⟨(doubleFormat.ofRatio negative num den).toUInt64⟩

def ofDecimal (negative : Bool) (digits : Nat) (exponent : Int) : Double :=
  ⟨(doubleFormat.ofDecimal negative digits exponent).toUInt64⟩

/-- Nearest number to an integer. -/
def ofInt (i : Int) : Double := ofRatio (i < 0) i.natAbs 1

def zero : Double := ⟨0⟩

def nan : Double := ofReading .nan

def isNaN (x : Double) : Bool := x.read == .nan

def isFinite (x : Double) : Bool :=
  match x.read with
  | .finite .. => true
  | _ => false

/-- The integer that a number is, if it is one. -/
def toInt? (x : Double) : Option Int :=
  match x.read with
  | .finite negative mantissa exponent =>
    let sign : Int := if negative then -1 else 1
    if 0 ≤ exponent then some (sign * (mantissa * Nat.pow 2 exponent.toNat : Nat))
    else if mantissa % Nat.pow 2 (-exponent).toNat = 0 then
      some (sign * (mantissa / Nat.pow 2 (-exponent).toNat : Nat))
    else none
  | _ => none

/-- The value of a finite number as `numerator / 2^scale`. -/
def toDyadic? (x : Double) : Option (Int × Nat) :=
  match x.read with
  | .finite negative mantissa exponent =>
    let sign : Int := if negative then -1 else 1
    if 0 ≤ exponent then some (sign * (mantissa * Nat.pow 2 exponent.toNat : Nat), 0)
    else some (sign * (mantissa : Nat), (-exponent).toNat)
  | _ => none

/-- Nearest 32-bit number. -/
def toSingle (x : Double) : Single := ⟨(singleFormat.ofReading x.read).toUInt32⟩

/-- The number with the other sign. -/
def neg (x : Double) : Double := ⟨x.bits ^^^ 0x8000000000000000⟩

/-- Exact sum of two finite numbers, rounded once; an infinity absorbs what is finite. -/
def add (x y : Double) : Double :=
  match x.read, y.read with
  | .nan, _ => nan
  | _, .nan => nan
  | .infinite a, .infinite b => if a = b then x else nan
  | .infinite _, _ => x
  | _, .infinite _ => y
  | .finite a m p, .finite b n q =>
    let low := min p q
    let left : Int := (if a then -1 else 1) * (m * Nat.pow 2 (p - low).toNat : Nat)
    let right : Int := (if b then -1 else 1) * (n * Nat.pow 2 (q - low).toNat : Nat)
    let total := left + right
    if total = 0 then (if a && b then x else zero)
    else ofReading (.finite (total < 0) total.natAbs low)

/-- Exact product of two finite numbers, rounded once. -/
def mul (x y : Double) : Double :=
  match x.read, y.read with
  | .finite a m p, .finite b n q => ofReading (.finite (a != b) (m * n) (p + q))
  | _, _ => nan

/-- Exact quotient of two finite numbers, rounded once; the divisor is not zero. -/
def div (x y : Double) : Double :=
  match x.read, y.read with
  | .finite a m p, .finite b n q =>
    if p < q then ofRatio (a != b) m (n * Nat.pow 2 (q - p).toNat)
    else ofRatio (a != b) (m * Nat.pow 2 (p - q).toNat) n
  | _, _ => nan

/-- Quotient by a positive integer that is exactly representable. -/
def divNat (x : Double) (n : Nat) : Double :=
  match x.read with
  | .finite negative mantissa exponent =>
    if 0 ≤ exponent then ofRatio negative (mantissa * Nat.pow 2 exponent.toNat) n
    else ofRatio negative mantissa (n * Nat.pow 2 (-exponent).toNat)
  | _ => x

/-- Order of two numbers that are not NaN, by value. -/
def compare? (x y : Double) : Option Ordering :=
  match x.read, y.read with
  | .nan, _ | _, .nan => none
  | .infinite a, .infinite b => some (compare b.toNat a.toNat)
  | .infinite a, .finite .. => some (if a then .lt else .gt)
  | .finite .., .infinite b => some (if b then .gt else .lt)
  | .finite a m p, .finite b n q =>
    let low := min p q
    let left : Int := (if a then -1 else 1) * (m * Nat.pow 2 (p - low).toNat : Nat)
    let right : Int := (if b then -1 else 1) * (n * Nat.pow 2 (q - low).toNat : Nat)
    some (compare left right)

end Double

namespace Single

def read (x : Single) : Reading := singleFormat.read x.bits.toNat

def isNaN (x : Single) : Bool := x.read == .nan

/-- Nearest number to an integer. -/
def ofInt (i : Int) : Single := ⟨(singleFormat.ofRatio (i < 0) i.natAbs 1).toUInt32⟩

def ofDecimal (negative : Bool) (digits : Nat) (exponent : Int) : Single :=
  ⟨(singleFormat.ofDecimal negative digits exponent).toUInt32⟩

/-- The same number in 64 bits. -/
def toDouble (x : Single) : Double := Double.ofReading x.read

end Single

end SqlGateway.Number
