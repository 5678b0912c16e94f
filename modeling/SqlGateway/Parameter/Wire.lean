import SqlGateway.Parameter.Basic

/-! Binary forms of typed parameters. All numbers are big-endian; dates count days and moments count
    microseconds from 2000-01-01; a document is a version byte and its text.

    A decimal is its digits in groups of four, aligned to the point:

        12.50   ▶   2 groups   weight 0   sign +   scale 2   0012 5000                            -/

namespace SqlGateway.Parameter

open Number (Decimal)
open Text (bigEndian utf8)

/-- Groups of four digits of a number, the lowest first. -/
def lowGroups : Nat → Nat → List Nat
  | 0, _ => []
  | fuel + 1, n => if n = 0 then [] else n % 10000 :: lowGroups fuel (n / 10000)

/-- A decimal: count of groups, weight of the first one, sign, scale, groups. -/
def numericBytes (d : Decimal) : List UInt8 :=
  if d.mantissa = 0 then List.replicate 8 0
  else
    let shift := (4 - d.scale % 4) % 4
    let groups := lowGroups 10 (d.mantissa * Nat.pow 10 shift)
    let weight : Int := (groups.length : Int) - (d.scale + 3) / 4 - 1
    let kept := (groups.dropWhile (· == 0)).reverse
    bigEndian 2 kept.length ++ bigEndian 2 weight ++
      bigEndian 2 (if d.negative then 0x4000 else 0) ++ bigEndian 2 d.scale ++
      kept.flatMap fun (g : Nat) => bigEndian 2 g

/-- Bytes of a parameter; none for null. -/
def bytes? : Parameter → Option (List UInt8)
  | .null => none
  | .bool b => some [if b then 1 else 0]
  | .int2 i => some (bigEndian 2 i.toInt)
  | .int4 i => some (bigEndian 4 i.toInt)
  | .int8 i => some (bigEndian 8 i.toInt)
  | .float4 x => some (bigEndian 4 x.bits.toNat)
  | .float8 x => some (bigEndian 8 x.bits.toNat)
  | .numeric d => some (numericBytes d)
  | .uuid u => some (bigEndian 16 u.value)
  | .date d => some (bigEndian 4 (d.days - Time.Date.millennium.days))
  | .time c => some (bigEndian 8 c.micros)
  | .timestamp m => some (bigEndian 8 m.microsSinceMillennium)
  | .timestamptz m => some (bigEndian 8 m.microsSinceMillennium)
  | .json j => some (1 :: utf8 j.text)
  | .bytes b => some b
  | .text s => some (utf8 s)

end SqlGateway.Parameter
