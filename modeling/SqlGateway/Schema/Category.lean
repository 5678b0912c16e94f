import SqlGateway.Text.Case

/-! Categories of column types. The name of a type up to its first parenthesis or space decides its
    category, whatever its ASCII case; a name that merely contains a known one is unknown. -/

namespace SqlGateway

/-- What the values of a column are. -/
inductive TypeCategory where
  | integer
  | float
  | decimal
  | boolean
  | text
  | binary
  | json
  | uuid
  | timestamp
  | date
  | time
  | unknown
  deriving DecidableEq, Repr

namespace TypeCategory

def name : TypeCategory → String
  | .integer => "Integer"
  | .float => "Float"
  | .decimal => "Decimal"
  | .boolean => "Boolean"
  | .text => "Text"
  | .binary => "Binary"
  | .json => "Json"
  | .uuid => "Uuid"
  | .timestamp => "Timestamp"
  | .date => "Date"
  | .time => "Time"
  | .unknown => "Unknown"

/-- Base names of the types of each category. -/
def baseNames : List (TypeCategory × List String) :=
  [(.integer, ["int", "int2", "int4", "int8", "integer", "smallint", "mediumint", "bigint",
      "tinyint", "serial", "smallserial", "bigserial", "year"]),
    (.float, ["float", "float4", "float8", "real", "double"]),
    (.decimal, ["numeric", "decimal"]),
    (.boolean, ["bool", "boolean"]),
    (.timestamp, ["timestamp", "timestamptz", "datetime"]),
    (.date, ["date"]),
    (.time, ["time", "timetz"]),
    (.uuid, ["uuid"]),
    (.json, ["json", "jsonb"]),
    (.binary, ["bytea", "blob", "tinyblob", "mediumblob", "longblob", "binary", "varbinary",
      "bit"]),
    (.text, ["text", "tinytext", "mediumtext", "longtext", "varchar", "char", "bpchar",
      "character", "name", "citext", "enum", "set"])]

/-- The name up to its first parenthesis or space, in lower case. -/
def baseName (typeName : String) : String :=
  String.ofList ((Text.lower typeName).toList.takeWhile fun c => c != '(' && c != ' ')

/-- Category of the type of a name. -/
def ofName (typeName : String) : TypeCategory :=
  match baseNames.find? fun (_, names) => names.contains (baseName typeName) with
  | some (category, _) => category
  | none => .unknown

end TypeCategory

end SqlGateway
