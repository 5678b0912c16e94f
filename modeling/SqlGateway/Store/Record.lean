import SqlGateway.Connection.Info
import SqlGateway.Failure.Basic
import SqlGateway.Query.Basic

/-! Records of registered connections: one row per connection, and the queries that read and write
    it. A text column may hold an integer, which reads as its digits; whatever else a column holds
    reads as nothing. The driver has to be a known name and the port a port number, or nothing,
    which is port zero. -/

namespace SqlGateway.Record

open Number (int64Text)

/-- Table of the records. -/
def table : String := "registered_database"

/-- Columns of a record but its identifier, with the values of a connection. -/
def cells (i : ConnectionInfo) : List ColumnRef :=
  let text (name value : String) : ColumnRef := { name, value := some (.text value) }
  [text "name" i.name, text "host" i.host,
    { name := "port", value := some (.int (Int64.ofNat i.port.toNat)) },
    text "db_user" i.user, text "password" i.password, text "db_name" i.database,
    text "driver" i.driver.name]

/-- The column of the identifier with a value. -/
def idColumn (id : String) : ColumnRef := { name := "id", value := some (.text id) }

/-- All columns in the order of the table. -/
def columnNames : List String :=
  ["id", "name", "host", "port", "db_user", "password", "db_name", "driver"]

/-- Reads all records, by name and identifier. -/
def listQuery : Query :=
  { Query.on .select table with
    columns := columnNames.map fun name => { name }
    orderBy := [{ name := "name" }, { name := "id" }] }

/-- Adds a record. -/
def insertQuery (id : String) (i : ConnectionInfo) : Query :=
  { Query.on .insert table with columns := idColumn id :: cells i }

/-- Replaces the record of an identifier. -/
def updateQuery (id : String) (i : ConnectionInfo) : Query :=
  { Query.on .update table with columns := cells i, filters := [idColumn id] }

/-- Removes the record of an identifier. -/
def deleteQuery (id : String) : Query :=
  { Query.on .delete table with filters := [idColumn id] }

/-- The cell of a column. -/
def cell? (row : Row) (column : String) : Option Value := row.lookup (table ++ "." ++ column)

/-- A cell as a text. -/
def textOf (row : Row) (column : String) : String :=
  match cell? row column with
  | some (.int n) => int64Text n
  | some (.text s) => s
  | _ => ""

/-- A cell as a port. -/
def portOf (id : String) (row : Row) : Except Failure UInt16 :=
  match cell? row "port" with
  | none | some .null => .ok 0
  | some value =>
    match value with
    | .int n =>
      if 0 ≤ n.toInt ∧ n.toInt < 65536 then .ok n.toInt.toNat.toUInt16
      else .error (.persistFailed ("Invalid port " ++ value.structuralText) id)
    | _ => .error (.persistFailed ("Invalid port " ++ value.structuralText) id)

/-- Identifier and connection of a row. -/
def ofRow (row : Row) : Except Failure (String × ConnectionInfo) := do
  let id := textOf row "id"
  let driverName := textOf row "driver"
  let driver ← match Driver.ofName? driverName with
    | some d => .ok d
    | none => .error (.persistFailed ("Unknown driver '" ++ driverName ++ "'") id)
  let port ← portOf id row
  return (id,
    { name := textOf row "name", driver, host := textOf row "host", port
      user := textOf row "db_user", password := textOf row "password"
      database := textOf row "db_name" })

end SqlGateway.Record
