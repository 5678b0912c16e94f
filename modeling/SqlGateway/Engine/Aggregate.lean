import SqlGateway.Engine.Table
import SqlGateway.Query.Basic
import SqlGateway.Text.Percent

/-! Aggregates over the cells of a group; cells without a value do not count.

    A sum of integers is exact. From the first number with a fraction on, or when the integers grow
    out of their range, the sum goes on in floating point, and what each addition rounds away is
    kept in a second number:

        sum', error' = sum + x, error + ((larger - sum') + smaller)

    An integer sum that left its range and met no fraction is a fault. -/

namespace SqlGateway.Engine

open Number (Double)

namespace Cell

/-- A cell as a number to add: an integer, or a floating-point number. -/
def addend : Cell → Cell
  | .text s => (numberOfText? s).getD (.real (numberAtFront s))
  | .blob b => .real (numberAtFront (Text.utf8Lossy b))
  | c => c

end Cell

/-- A running sum. -/
structure RunningSum where
  count : Nat := 0
  whole : Int := 0
  isWhole : Bool := true
  overflowed : Bool := false
  sum : Double := .zero
  error : Double := .zero
  deriving DecidableEq, Repr

namespace RunningSum

/-- Integers from here on may lose digits as floating-point numbers. -/
def wideBound : Int := Nat.pow 2 52

/-- Unit of the part of a wide integer that is exactly representable. -/
def wideUnit : Int := 16384

/-- Add a floating-point number. -/
def addReal (s : RunningSum) (x : Double) : RunningSum :=
  let total := s.sum.add x
  let larger (a b : Double) : Bool :=
    (Double.compare? (if a.compare? .zero == some .lt then a.neg else a)
      (if b.compare? .zero == some .lt then b.neg else b)) == some .gt
  let lost :=
    if larger s.sum x then (s.sum.add total.neg).add x else (x.add total.neg).add s.sum
  { s with sum := total, error := s.error.add lost }

/-- Add an integer in floating point, a wide one in two parts. -/
def addWhole (s : RunningSum) (i : Int) : RunningSum :=
  if i ≤ -wideBound ∨ wideBound ≤ i then
    let low := i.tmod wideUnit
    (s.addReal (Double.ofInt (i - low))).addReal (Double.ofInt low)
  else s.addReal (Double.ofInt i)

/-- Go on in floating point. -/
def leaveWhole (s : RunningSum) : RunningSum :=
  if s.whole ≤ -wideBound ∨ wideBound ≤ s.whole then
    let low := s.whole.tmod wideUnit
    { s with isWhole := false, sum := Double.ofInt (s.whole - low), error := Double.ofInt low }
  else { s with isWhole := false, sum := Double.ofInt s.whole, error := .zero }

/-- Add a cell. -/
def add (s : RunningSum) (c : Cell) : RunningSum :=
  let s := { s with count := s.count + 1 }
  match c.addend with
  | .int i =>
    if s.isWhole then
      if Number.fitsSigned 64 (s.whole + i.toInt) then { s with whole := s.whole + i.toInt }
      else { s.leaveWhole.addWhole i.toInt with overflowed := true }
    else s.addWhole i.toInt
  | .real x =>
    if s.isWhole then s.leaveWhole.addReal x else { s.addReal x with overflowed := false }
  | _ => s

/-- The floating-point sum with what the additions rounded away. -/
def corrected (s : RunningSum) : Double :=
  if s.error.isFinite then s.sum.add s.error else s.sum

/-- A floating-point result; what is not a number is nothing. -/
def realCell (x : Double) : Cell := if x.isNaN then .null else .real x

/-- The sum. -/
def total (s : RunningSum) : Except Fault Cell :=
  if s.count = 0 then .ok .null
  else if s.isWhole then .ok (.int (Int64.ofInt s.whole))
  else if s.overflowed then .error (statementFault "integer overflow")
  else .ok (realCell s.corrected)

/-- The mean. -/
def mean (s : RunningSum) : Cell :=
  if s.count = 0 then .null
  else realCell ((if s.isWhole then Double.ofInt s.whole else s.corrected).divNat s.count)

end RunningSum

/-- The first of the cells that are least in an order. -/
def leastBy (before : Cell → Cell → Bool) : List Cell → Cell
  | [] => .null
  | c :: rest => rest.foldl (fun best d => if before d best then d else best) c

/-- An aggregate of the cells of a group. -/
def aggregate (f : Aggregate) (cells : List Cell) : Except Fault Cell :=
  let present := cells.filter fun c => !c.isNull
  let sum : RunningSum := present.foldl RunningSum.add {}
  match f with
  | .count => .ok (.int (Int64.ofNat present.length))
  | .sum => sum.total
  | .avg => .ok sum.mean
  | .min => .ok (leastBy (fun a b => a.order b == .lt) present)
  | .max => .ok (leastBy (fun a b => a.order b == .gt) present)

end SqlGateway.Engine
