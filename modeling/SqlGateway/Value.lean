import SqlGateway.Json.Decode
import SqlGateway.Text.Bytes
import SqlGateway.Text.Quoted
import SqlGateway.Time.Moment

/-! Scalar values: what a statement binds as an argument and what a cell of a result holds.

    In JSON a value is its own literal. A string always reads as a text, so moments and byte strings
    are written as texts (RFC 3339 in UTC, base 64) and come back as texts; an integer above the
    signed 64-bit range reads as a float. -/

namespace SqlGateway

open Number (Double int64Text)

/-- A scalar value. -/
inductive Value where
  | null
  | bool (value : Bool)
  | int (value : Int64)
  | float (value : Double)
  | text (value : String)
  | timestamp (value : Time.Moment)
  | bytes (value : List UInt8)
  deriving DecidableEq, Repr, Inhabited

namespace Value

def isNull : Value → Bool
  | .null => true
  | _ => false

/-- Name of the kind of a value. -/
def typeName : Value → String
  | .null => "null"
  | .bool _ => "bool"
  | .int _ => "int"
  | .float _ => "float"
  | .text _ => "text"
  | .timestamp _ => "timestamp"
  | .bytes _ => "bytes"

def asText? : Value → Option String
  | .text s => some s
  | _ => none

def asInt? : Value → Option Int64
  | .int i => some i
  | _ => none

/-- The value as JSON; a float outside the reals is `null`. -/
def toJson : Value → Json
  | .null => .null
  | .bool b => .bool b
  | .int i => .int i.toInt
  | .float x => if x.isFinite then .float x else .null
  | .text s => .str s
  | .timestamp m => .str m.zuluText
  | .bytes b => .str (Text.base64 b)

/-- The value of a JSON literal. -/
def ofJson? : Json → Option Value
  | .null => some .null
  | .bool b => some (.bool b)
  | .int i =>
    some (if Number.fitsSigned 64 i then .int (Int64.ofInt i) else .float (Double.ofInt i))
  | .float x => some (.float x)
  | .str s => some (.text s)
  | .arr _ | .obj _ => none

/-- Reads a value from its JSON literal. -/
def decoder : Json.Decoder Value := Json.Decoder.filterMap Json.value ofJson?

/-- A value as a constructor with its argument: `Int(70000)`, `Text("x")`, `Bytes([1])`. -/
def structuralText : Value → String
  | .null => "Null"
  | .bool b => "Bool(" ++ (if b then "true" else "false") ++ ")"
  | .int i => "Int(" ++ int64Text i ++ ")"
  | .float x => "Float(" ++ x.structuralText ++ ")"
  | .text s => "Text(" ++ Text.quoted s ++ ")"
  | .timestamp m => "Timestamp(" ++ m.zuluText ++ ")"
  | .bytes b => "Bytes([" ++ ", ".intercalate (b.map fun x => Number.natText x.toNat) ++ "])"

end Value

/-- A row: labels with their values, sorted by label, each label once. -/
abbrev Row := List (String × Value)

namespace Row

/-- Put a cell into a row; a cell of the same label is replaced. -/
def insert (label : String) (value : Value) : Row → Row
  | [] => [(label, value)]
  | (l, v) :: rest =>
    if label = l then (label, value) :: rest
    else if label < l then (label, value) :: (l, v) :: rest
    else (l, v) :: insert label value rest

/-- The row of cells in the order in which they were read. -/
def ofCells (cells : List (String × Value)) : Row :=
  cells.foldl (fun row (label, value) => insert label value row) []

/-- The row as a JSON object. -/
def toJson (row : Row) : Json := .obj (row.map fun (label, value) => (label, value.toJson))

end Row

end SqlGateway
