import SqlGateway.Failure.Basic
import SqlGateway.Number.Decimal
import SqlGateway.Time.Reader
import SqlGateway.Uuid
import SqlGateway.Value

/-! Parameters of a typed statement: values in the representation of the type that the server gave
    to their place.

    A text is read as a literal of the type, so that identifiers, dates and decimals may be passed
    as strings. Numbers become the numeric types they fit. What has no representation of its own
    goes through its text. The outcome is a parameter, or one of two faults: the text is no literal
    of the type, or the number is outside its range. -/

namespace SqlGateway

open Number (Double Single Decimal intText int64Text)
open Time (Date Clock Moment)

/-- A typed parameter. -/
inductive Parameter where
  | null
  | bool (value : Bool)
  | int2 (value : Int16)
  | int4 (value : Int32)
  | int8 (value : Int64)
  | float4 (value : Single)
  | float8 (value : Double)
  | numeric (value : Decimal)
  | uuid (value : Uuid)
  | date (value : Date)
  | time (value : Clock)
  | timestamp (value : Moment)
  | timestamptz (value : Moment)
  | json (value : Json)
  | bytes (value : List UInt8)
  /-- Sent as it is, whatever the name of the type. -/
  | text (value : String)

/-- Width of an integer type. -/
inductive IntegerWidth where
  | two
  | four
  | eight
  deriving DecidableEq, Repr

/-- A type of a place. -/
inductive ParameterType where
  | bool
  | integer (width : IntegerWidth)
  | float4
  | float8
  | numeric
  | uuid
  | date
  | time
  | timestamp
  | timestamptz
  | json
  | bytea
  | other
  deriving DecidableEq, Repr

namespace ParameterType

/-- Types with a representation of their own. -/
def named : List (String × ParameterType) :=
  [("BOOL", .bool), ("INT2", .integer .two), ("INT4", .integer .four), ("INT8", .integer .eight),
    ("FLOAT4", .float4), ("FLOAT8", .float8), ("NUMERIC", .numeric), ("UUID", .uuid),
    ("DATE", .date), ("TIME", .time), ("TIMESTAMP", .timestamp), ("TIMESTAMPTZ", .timestamptz),
    ("JSON", .json), ("JSONB", .json), ("BYTEA", .bytea)]

/-- The type of a name, whatever its ASCII case. -/
def ofName (name : String) : ParameterType := (named.lookup (Text.upper name)).getD .other

end ParameterType

namespace Parameter

/-- A text that is no literal of the type. -/
def malformed (typeName text : String) : Failure :=
  .executionFailed
    ("invalid input syntax for type " ++ Text.lower typeName ++ ": \"" ++ text ++ "\"")
    (some "22P02") "Pass the value in the column type's literal format"

/-- A number that the type cannot hold. -/
def outOfRange (typeName text : String) : Failure :=
  .executionFailed ("value " ++ text ++ " is out of range for type " ++ Text.lower typeName)
    (some "22003") "Pass a value the column type can hold"

/-- An integer in a width, if it fits. -/
def ofInteger (width : IntegerWidth) (typeName : String) (i : Int64) : Except Failure Parameter :=
  match width with
  | .two =>
    if Number.fitsSigned 16 i.toInt then .ok (.int2 (Int16.ofInt i.toInt))
    else .error (outOfRange typeName (int64Text i))
  | .four =>
    if Number.fitsSigned 32 i.toInt then .ok (.int4 (Int32.ofInt i.toInt))
    else .error (outOfRange typeName (int64Text i))
  | .eight => .ok (.int8 i)

/-- Truth value of a word. -/
def truth? (word : String) : Option Bool :=
  if ["t", "true", "y", "yes", "on", "1"].contains word then some true
  else if ["f", "false", "n", "no", "off", "0"].contains word then some false
  else none

/-- Read a text as a literal of a type. Blanks around it do not count, except where the type takes
    any text. -/
def ofText (type : ParameterType) (typeName text : String) : Except Failure Parameter :=
  let trimmed := Text.trim text
  let orMalformed (p : Option Parameter) : Except Failure Parameter :=
    match p with
    | some x => .ok x
    | none => .error (malformed typeName text)
  match type with
  | .bool => orMalformed ((truth? (Text.lower trimmed)).map .bool)
  | .integer width =>
    match Number.readInt64? trimmed with
    | some i => ofInteger width typeName i
    | none => .error (malformed typeName text)
  | .float4 => orMalformed ((Number.readFloat? trimmed).map fun l => .float4 l.toSingle)
  | .float8 => orMalformed ((Number.readFloat? trimmed).map fun l => .float8 l.toDouble)
  | .numeric => orMalformed ((Decimal.ofText? trimmed).map .numeric)
  | .uuid => orMalformed ((Uuid.ofText? trimmed).map .uuid)
  | .date => orMalformed ((Date.ofText? trimmed).map .date)
  | .time => orMalformed ((Clock.ofText? trimmed).map .time)
  | .timestamp => orMalformed ((Moment.ofText? trimmed).map .timestamp)
  | .timestamptz => orMalformed ((Moment.utcOfText? trimmed).map .timestamptz)
  | .json => .ok (.json ((Json.ofText? text).getD (.str text)))
  | .bytea => .ok (.bytes (Text.utf8 text))
  | .other => .ok (.text text)

/-- The integer that a float is, cut to 64 bits. -/
def saturate (i : Int) : Int64 :=
  Int64.ofInt (max (-Nat.pow 2 63) (min i (Nat.pow 2 63 - 1)))

/-- Represent a value in the type of a name. -/
def coerce (typeName : String) (value : Value) : Except Failure Parameter :=
  let type := ParameterType.ofName typeName
  match value with
  | .null => .ok .null
  | .text s => ofText type typeName s
  | .bool b =>
    match type with
    | .bool => .ok (.bool b)
    | .integer width => ofInteger width typeName (if b then 1 else 0)
    | _ => ofText type typeName (if b then "true" else "false")
  | .int i =>
    match type with
    | .bool => .ok (.bool (i != 0))
    | .integer width => ofInteger width typeName i
    | .float4 => .ok (.float4 (Single.ofInt i.toInt))
    | .float8 => .ok (.float8 (Double.ofInt i.toInt))
    | .numeric => .ok (.numeric (Decimal.ofInt i.toInt))
    | _ => ofText type typeName (int64Text i)
  | .float x =>
    match type, x.toInt? with
    | .float4, _ => .ok (.float4 x.toSingle)
    | .float8, _ => .ok (.float8 x)
    | .integer width, some i => ofInteger width typeName (saturate i)
    | .numeric, _ =>
      match Decimal.ofDouble? x with
      | some d => .ok (.numeric d)
      | none => .error (outOfRange typeName x.plainText)
    | _, _ => ofText type typeName x.plainText
  | .timestamp m =>
    match type with
    | .timestamp => .ok (.timestamp m)
    | .date => .ok (.date m.date)
    | .time => .ok (.time m.clock)
    | .timestamptz => .ok (.timestamptz m)
    | _ => ofText type typeName m.offsetText
  | .bytes b =>
    match type, Text.ofUtf8? b with
    | .bytea, _ => .ok (.bytes b)
    | _, none => .ok (.bytes b)
    | _, some s => ofText type typeName s

/-- A text of a type is read as a literal of the type. -/
theorem coerce_text {typeName : String} {type : ParameterType}
    (h : ParameterType.ofName typeName = type) (s : String) :
    coerce typeName (.text s) = ofText type typeName s := by
  rw [← h]
  rfl

end Parameter

end SqlGateway
