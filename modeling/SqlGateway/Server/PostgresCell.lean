import SqlGateway.Json.Decode
import SqlGateway.Number.Decimal
import SqlGateway.Schema.Category
import SqlGateway.Uuid
import SqlGateway.Value

/-! Cells of a PostgreSQL row in binary form, all numbers big-endian. The category of the type
    decides what is read; bytes that are not of that form are nothing.

    A decimal is four numbers of two bytes and then its digits in groups of four:

        count of groups   weight of the first   sign   scale   groups …
        0002              0000                  0000   0002    000c 1388      ▶  12.50            -/

namespace SqlGateway.Server.Postgres

open Number (Decimal Double Single)
open Text (natOfBytes intOfBytes)

/-- A big-endian integer that takes exactly `width` bytes. -/
def integerOf? (width : Nat) (bytes : List UInt8) : Option Int :=
  if bytes.length = width then some (intOfBytes bytes) else none

/-- Numbers of two bytes each. -/
def pairs? : List UInt8 → Option (List Nat)
  | [] => some []
  | a :: b :: rest => (pairs? rest).map fun ns => natOfBytes [a, b] :: ns
  | [_] => none

/-- A signed number of two bytes. -/
def signed16 (n : Nat) : Int := if n < Nat.pow 2 15 then n else (n : Int) - Nat.pow 2 16

/-- The decimal `mantissa / 10^places` brought to `scale` places, if it fits. -/
def rescaled? (negative : Bool) (mantissa places scale : Nat) : Option Decimal :=
  let fitted :=
    if scale ≤ places then Number.roundDiv .up mantissa (Nat.pow 10 (places - scale))
    else mantissa * Nat.pow 10 (scale - places)
  if fitted < Decimal.capacity then some ⟨negative, fitted, scale⟩ else none

/-- The decimal brought to `scale` places, or to as many as it can hold. -/
def fitted? (negative : Bool) (mantissa places scale : Nat) : Option Decimal :=
  (List.range (min scale Decimal.maxScale + 1)).reverse.findSome?
    (rescaled? negative mantissa places)

/-- Highest weight whose groups a decimal can hold. -/
def weightBound : Int := 7

/-- A decimal. Without groups it is zero, whatever its scale. -/
def decimal? (bytes : List UInt8) : Option Decimal := do
  match ← pairs? bytes with
  | count :: weight :: sign :: scale :: groups =>
    if sign ≠ 0 ∧ sign ≠ 0x4000 then none
    else if count ≠ groups.length then none
    else if groups.isEmpty then some (Decimal.make false 0 0)
    else
      let first := signed16 weight
      let last := first - (groups.length - 1 : Nat)
      if weightBound < first ∨ last < -weightBound ∨ Nat.pow 2 15 ≤ scale then none
      else
        let whole := groups.foldl (fun n g => 10000 * n + g) 0
        let negative := sign = 0x4000
        if 0 ≤ last then fitted? negative (whole * Nat.pow 10 (4 * last).toNat) 0 scale
        else fitted? negative whole (4 * -last).toNat scale
  | _ => none

/-- A moment, if its date is in range. -/
def moment? (bytes : List UInt8) : Option Time.Moment :=
  (integerOf? 8 bytes).bind fun n =>
    let m := Time.Moment.ofMicrosSinceMillennium n
    if m.date.inRange then some m else none

/-- A date, if it is in range. -/
def date? (bytes : List UInt8) : Option Time.Date :=
  (integerOf? 4 bytes).bind fun n =>
    let d : Time.Date := ⟨Time.Date.millennium.days + n⟩
    if d.inRange then some d else none

/-- The value of bytes under a type. -/
def value? (typeName : String) (bytes : List UInt8) : Option Value :=
  match TypeCategory.ofName typeName with
  | .integer =>
    let width := match typeName with
      | "INT8" => some 8
      | "INT4" => some 4
      | "INT2" => some 2
      | _ => none
    (width.bind fun w => integerOf? w bytes).map fun i => .int (Int64.ofInt i)
  | .float =>
    if typeName = "FLOAT8" ∧ bytes.length = 8 then some (.float ⟨(natOfBytes bytes).toUInt64⟩)
    else if typeName = "FLOAT4" ∧ bytes.length = 4 then
      some (.float (Single.toDouble ⟨(natOfBytes bytes).toUInt32⟩))
    else none
  | .decimal => (decimal? bytes).map fun d => .text d.text
  | .boolean => if typeName = "BOOL" then (bytes.head?).map fun b => .bool (b != 0) else none
  | .timestamp => (moment? bytes).map .timestamp
  | .date => (date? bytes).map fun d => .text d.text
  | .time =>
    if typeName = "TIME" then
      (integerOf? 8 bytes).map fun n => .text (Time.Clock.ofMicros n).text
    else none
  | .uuid => if bytes.length = 16 then some (.text (Uuid.text ⟨natOfBytes bytes⟩)) else none
  | .json =>
    let body := if typeName = "JSONB" then
        (if bytes.head? = some 1 then some (bytes.drop 1) else none)
      else some bytes
    ((body.bind Text.ofUtf8?).bind Json.ofText?).map fun j => .text j.text
  | .binary => if typeName = "BYTEA" then some (.bytes bytes) else none
  | .text | .unknown => (Text.ofUtf8? bytes).map .text

end SqlGateway.Server.Postgres
