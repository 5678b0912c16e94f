import SqlGateway.Server.PostgresCell

/-! Cells of a MySQL row in binary form, all numbers little-endian, and the same form of bound
    values.

    Dates and moments begin with the count of the bytes that follow; a moment leaves out what is
    zero at its end:

        00                              nothing
        04 e807 02 1d                   2024-02-29
        07 e807 02 1d 0d 0e 0f          2024-02-29 13:14:15
        0b e807 02 1d 0d 0e 0f 40e20100 2024-02-29 13:14:15.123456

    A time of day has a sign and days before its hours; only times below one day can be read. -/

namespace SqlGateway.Server.Mysql

open Number (Decimal Double Single)
open Text (natOfBytes intOfBytes littleEndian utf8)

/-- An unsigned little-endian number. -/
def naturalOf (bytes : List UInt8) : Nat := natOfBytes bytes.reverse

/-- Bytes of an integer of a type, if the type has a width. -/
def width? (base : String) : Option Nat :=
  let widths :=
    [("TINYINT", 1), ("SMALLINT", 2), ("YEAR", 2), ("MEDIUMINT", 4), ("INT", 4), ("BIGINT", 8)]
  widths.lookup base

/-- An integer; one above the signed range is its text. -/
def integer? (typeName : String) (bytes : List UInt8) : Option Value := do
  let base := String.ofList (typeName.toList.takeWhile (· != ' '))
  let width ← width? base
  if bytes.length ≠ width then none
  else if base = "YEAR" ∨ base ≠ typeName then
    let n := naturalOf bytes
    if n < Nat.pow 2 63 then some (.int (Int64.ofNat n)) else some (.text (Number.natText n))
  else some (.int (Int64.ofInt (intOfBytes bytes.reverse)))

/-- A date of the bytes after the count. -/
def date? (bytes : List UInt8) : Option Time.Date :=
  match bytes with
  | a :: b :: month :: day :: _ => Time.Date.ofCivil? ⟨naturalOf [a, b], month.toNat, day.toNat⟩
  | _ => none

/-- A time of day of hour, minute, second and perhaps microseconds. -/
def clock? (bytes : List UInt8) : Option Time.Clock :=
  match bytes with
  | hour :: minute :: second :: micros =>
    if second.toNat < 60 then
      Time.Clock.ofParts? hour.toNat minute.toNat second.toNat (naturalOf (micros.take 4) * 1000)
    else none
  | _ => none

/-- A moment after its count. -/
def moment? : List UInt8 → Option Time.Moment
  | [] => none
  | _ :: body => do
    let date ← date? body
    let clock ← if body.length ≤ 4 then some Time.Clock.midnight else clock? (body.drop 4)
    return ⟨date, clock⟩

/-- A time of day after its count, sign and days. -/
def time? : List UInt8 → Option Time.Clock
  | [] => none
  | count :: body =>
    if count = 0 then some Time.Clock.midnight
    else if naturalOf ((body.drop 1).take 4) ≠ 0 then none
    else clock? (body.drop 5)

/-- The value of bytes under a type. -/
def value? (typeName : String) (bytes : List UInt8) : Option Value :=
  match TypeCategory.ofName typeName with
  | .integer => integer? typeName bytes
  | .float =>
    if bytes.length = 8 then some (.float ⟨(naturalOf bytes).toUInt64⟩)
    else if bytes.length = 4 then some (.float (Single.toDouble ⟨(naturalOf bytes).toUInt32⟩))
    else none
  | .decimal => ((Text.ofUtf8? bytes).bind Decimal.ofText?).map fun d => .text d.text
  | .boolean => (bytes.head?).map fun b => .bool (b != 0)
  | .timestamp => (moment? bytes).map .timestamp
  | .date => (date? (bytes.drop 1)).map fun d => .text d.text
  | .time => (time? bytes).map fun c => .text c.text
  | .json => ((Text.ofUtf8? bytes).bind Json.ofText?).map fun j => .text j.text
  | .binary => if typeName = "BIT" then none else some (.bytes bytes)
  | .uuid | .text | .unknown => (Text.ofUtf8? bytes).map .text

/-- Bytes of a date. -/
def dateBytes (c : Time.Civil) : List UInt8 :=
  littleEndian 2 c.year ++ [c.month.toUInt8, c.day.toUInt8]

/-- Bytes of a moment with their count; its year has to fit in two bytes. -/
def momentBytes? (m : Time.Moment) : Option (List UInt8) :=
  let civil := m.date.civil
  let clock := m.clock
  let time : List UInt8 := [clock.hour.toUInt8, clock.minute.toUInt8, clock.second.toUInt8]
  if civil.year < 0 ∨ 65535 < civil.year then none
  else if clock = Time.Clock.midnight then some (4 :: dateBytes civil)
  else if clock.nanos = 0 then some (7 :: (dateBytes civil ++ time))
  else some (11 :: (dateBytes civil ++ time ++
    littleEndian 4 (clock.nanos % Time.nanosPerSecond / 1000 : Nat)))

end SqlGateway.Server.Mysql
