import SqlGateway.Value

/-! Cells of a database file. A cell holds nothing, a number, a text or bytes; truth values are kept
    as numbers and moments as texts. Cells are ordered across their kinds:

        nothing  <  numbers, by value  <  texts, by code points  <  bytes

    A text that is a number in full, blanks around it allowed, can stand for that number. -/

namespace SqlGateway.Engine

open Number (Double int64Text)

/-- One stored cell. -/
inductive Cell where
  | null
  | int (value : Int64)
  | real (value : Double)
  | text (value : String)
  | blob (value : List UInt8)
  deriving DecidableEq, Repr, Inhabited

namespace Cell

/-- The cell of a bound value. What is not a number is nothing. -/
def ofValue : Value → Cell
  | .null => .null
  | .bool b => .int (if b then 1 else 0)
  | .int i => .int i
  | .float x => if x.isNaN then .null else .real x
  | .text s => .text s
  | .timestamp m => .text m.offsetText
  | .bytes b => .blob b

/-- The value that a cell reads as; `truth` says whether the column holds truth values. -/
def toValue (truth : Bool) : Cell → Value
  | .null => .null
  | .int i => if truth then .bool (i != 0) else .int i
  | .real x => .float x
  | .text s => .text s
  | .blob b => .bytes b

def isNull : Cell → Bool
  | .null => true
  | _ => false

/-- Position of the kind of a cell in the order of all cells. -/
def rank : Cell → Nat
  | .null => 0
  | .int _ | .real _ => 1
  | .text _ => 2
  | .blob _ => 3

/-- Order of an integer and a number that is not NaN. -/
def orderToReal (i : Int) (y : Double) : Ordering :=
  match y.read with
  | .infinite negative => if negative then .gt else .lt
  | _ =>
    match y.toDyadic? with
    | some (numerator, scale) => compare (i * Nat.pow 2 scale) numerator
    | none => .gt

/-- Order of two cells. -/
def order : Cell → Cell → Ordering
  | .int i, .int j => compare i.toInt j.toInt
  | .int i, .real y => orderToReal i.toInt y
  | .real x, .int j => (orderToReal j.toInt x).swap
  | .real x, .real y => (x.compare? y).getD .eq
  | .text s, .text t => compare s t
  | .blob b, .blob c => compare (b.map UInt8.toNat) (c.map UInt8.toNat)
  | a, b => compare a.rank b.rank

/-- Are two cells equal in the order? -/
def same (a b : Cell) : Bool := a.order b == .eq

/-- A blank that may stand around a number. -/
def isBlank (c : Char) : Bool := c == ' ' || ('\t' ≤ c && c ≤ '\r')

/-- The integer of a number that is one and lies strictly inside the 64-bit range. -/
def integral? (x : Double) : Option Int64 :=
  x.toInt?.bind fun i =>
    if -(Nat.pow 2 63 : Int) < i ∧ i < Nat.pow 2 63 - 1 then some (Int64.ofInt i) else none

/-- The number that decimal characters write, an integer if they look like one and it fits. -/
def numeral? (cs : List Char) : Option Cell :=
  let (negative, digits) := Number.splitSign cs
  (Number.readUnsigned? negative digits).map fun literal =>
    let real := Cell.real (Double.ofDecimal literal.negative literal.digits literal.exponent)
    if digits.all Number.isDigit then
      let i : Int := if negative then -(literal.digits : Int) else literal.digits
      ((Number.toInt64? i).map Cell.int).getD real
    else real

/-- The number that a text is in full. -/
def numberOfText? (s : String) : Option Cell :=
  let front := s.toList.dropWhile isBlank
  numeral? (front.reverse.dropWhile isBlank).reverse

/-- The longest number at the front of a text, or zero. -/
def numberAtFront (s : String) : Double :=
  let cs := s.toList.dropWhile isBlank
  let prefixes := (List.range (cs.length + 1)).reverse.map cs.take
  match prefixes.findSome? numeral? with
  | some (.int i) => Double.ofInt i.toInt
  | some (.real x) => x
  | _ => Double.zero

end Cell

end SqlGateway.Engine
