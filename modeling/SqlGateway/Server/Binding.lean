import SqlGateway.Parameter.Wire
import SqlGateway.Server.Conversation
import SqlGateway.Server.MysqlCell
import SqlGateway.Statement.Draft

/-! Running statements on a server.

    PostgreSQL chooses the types of the parameters when it prepares a statement, and the arguments
    are brought to these types before they are sent. For MySQL every kind of value has one type:

        null      VARCHAR, nothing        text       VARCHAR, UTF-8
        bool      BOOLEAN, one byte       moment     TIMESTAMP
        int       BIGINT, 8 bytes         bytes      BLOB
        float     DOUBLE, 8 bytes                                                                 -/

namespace SqlGateway.Server

open Text (littleEndian utf8)

/-- A value as a MySQL parameter; a moment has to have a year of two bytes. -/
def Mysql.argument? : Value → Option Argument
  | .null => some ⟨"VARCHAR", none⟩
  | .bool b => some ⟨"BOOLEAN", some [if b then 1 else 0]⟩
  | .int i => some ⟨"BIGINT", some (littleEndian 8 i.toInt)⟩
  | .float x => some ⟨"DOUBLE", some (littleEndian 8 x.bits.toNat)⟩
  | .text s => some ⟨"VARCHAR", some (utf8 s)⟩
  | .timestamp m => (Mysql.momentBytes? m).map fun bytes => ⟨"TIMESTAMP", some bytes⟩
  | .bytes b => some ⟨"BLOB", some b⟩

/-- What is said of a value that no MySQL parameter can hold; arguments count from one. -/
def Mysql.unbindable (index : Nat) (value : Value) : Fault :=
  let date := match value with
    | .timestamp m => m.date.text
    | _ => ""
  .encode ("Encoding argument $" ++ Number.natText (index + 1) ++
    " failed: NaiveDateTime out of range for Mysql: " ++ date)

/-- Values as MySQL parameters, in order. -/
def Mysql.arguments (values : List Value) : Except Fault (List Argument) :=
  values.zipIdx.mapM fun (v, i) =>
    match Mysql.argument? v with
    | some a => .ok a
    | none => .error (Mysql.unbindable i v)

/-- A PostgreSQL parameter of a type; a document of type `JSON` has a blank where others have a
    version. -/
def Postgres.argument (type : String) (p : Parameter) : Argument :=
  ⟨type, match p with
    | .json j => some ((if type = "JSON" then 0x20 else 1) :: utf8 j.text)
    | p => p.bytes?⟩

/-- Values as PostgreSQL parameters of the types that the server chose. -/
def Postgres.arguments (types : List String) (values : List Value) :
    Except Failure (List Argument) :=
  (values.zip types).mapM fun (v, type) => do
    return Postgres.argument type (← Parameter.coerce type v)

/-- The value of a cell under its type; what cannot be read is null. -/
def cellValue (driver : Driver) (typeName : String) (cell : Option (List UInt8)) : Value :=
  (cell.bind (match driver with
    | .mysql => Mysql.value? typeName
    | _ => Postgres.value? typeName)).getD .null

namespace Reply

/-- The rows of a reply. -/
def valueRows (driver : Driver) (r : Reply) : List Row :=
  r.rows.map fun cells =>
    Row.ofCells (List.zipWith (fun (label, type) cell => (label, cellValue driver type cell))
      r.columns cells)

/-- The number of rows that were written. -/
def affectedCount (driver : Driver) (r : Reply) : Nat :=
  r.affected.getD (if driver = .mysql then 0 else r.rows.length)

end Reply

namespace Call

/-- Prepare a statement and bring its arguments into the form of its parameters. -/
def bind (driver : Driver) (s : Statement) : Work Call Failure (List Argument) := do
  match driver with
  | .mysql =>
    let arguments ← (Work.ofExcept (Mysql.arguments s.args)).report Fault.toFailure
    let _ ← (prepare driver s.sql []).report Fault.toFailure
    return arguments
  | _ =>
    let types ← (prepare driver s.sql (s.args.map fun _ => 0)).report Fault.toFailure
    Work.ofExcept (Postgres.arguments types s.args)

/-- Run a statement. -/
def run (driver : Driver) (s : Statement) : Work Call Failure Reply := do
  let arguments ← bind driver s
  (execute driver s.sql arguments).report Fault.toFailure

end Call

end SqlGateway.Server
