import SqlGateway.Number.FloatText

/-! Reading integers: an optional sign and at least one ASCII digit, nothing else, and the value has
    to lie in the range that the reader asks for. An unsigned reader takes a plus sign but no minus
    sign. -/

namespace SqlGateway.Number

/-- Value of a text of ASCII digits, at least one. -/
def readDigits? (cs : List Char) : Option Nat :=
  if cs.isEmpty || !cs.all isDigit then none else some (digitsValue 0 cs)

/-- Read a signed integer of any size. -/
def readInteger? (s : String) : Option Int :=
  match s.toList with
  | '-' :: rest => (readDigits? rest).map fun n => -(n : Int)
  | '+' :: rest => (readDigits? rest).map Int.ofNat
  | cs => (readDigits? cs).map Int.ofNat

/-- Read an unsigned integer of any size. -/
def readNatural? (s : String) : Option Nat :=
  match s.toList with
  | '+' :: rest => readDigits? rest
  | cs => readDigits? cs

/-- Is the integer one of the signed integers of `bits` bits? -/
def fitsSigned (bits : Nat) (i : Int) : Bool :=
  -Nat.pow 2 (bits - 1) ≤ i && i < Nat.pow 2 (bits - 1)

/-- The signed 64-bit integer of a value in range. -/
def toInt64? (i : Int) : Option Int64 := if fitsSigned 64 i then some (Int64.ofInt i) else none

/-- Read a signed 64-bit integer. -/
def readInt64? (s : String) : Option Int64 := (readInteger? s).bind toInt64?

/-- Read an unsigned integer of `bits` bits. -/
def readWord? (bits : Nat) (s : String) : Option Nat :=
  (readNatural? s).filter fun n => n < Nat.pow 2 bits

/-- Decimal text of a 64-bit integer. -/
def int64Text (i : Int64) : String := intText i.toInt

end SqlGateway.Number
