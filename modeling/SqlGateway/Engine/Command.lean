import SqlGateway.Engine.Write

/-! Commands: what the statements of a script come to once they are read.

        create, drop              tables
        insert, update, delete    rows, given as literals
        select                    nothing, but its names have to exist                            -/

namespace SqlGateway.Engine

/-- What one statement of a script asks for. -/
inductive Command where
  | create (ifAbsent : Bool) (written : String) (table : StoredTable)
  | drop (ifPresent : Bool) (table : String)
  | insert (onConflict : OnConflict) (table : String) (columns : Option (List String))
      (rows : List (List Cell))
  | update (table : String) (cells : List (String × Cell)) (tests : List (String × Test))
  | delete (table : String) (tests : List (String × Test))
  /-- Rows that nobody takes: only the names have to exist. -/
  | select (columns : List String) (table : Option String)
  deriving Repr

namespace Database

/-- Cells of the rows of an insert under the names of their columns. -/
def namedCells (t : StoredTable) (columns : Option (List String)) (rows : List (List Cell)) :
    Except Fault (List (List (String × Cell))) :=
  let names := columns.getD (t.columns.map ColumnDef.name)
  rows.mapM fun cells =>
    if cells.length = names.length then .ok (names.zip cells)
    else if columns.isSome then
      .error (statementFault (Number.natText cells.length ++ " values for " ++
        Number.natText names.length ++ " columns"))
    else
      .error (statementFault ("table " ++ t.name ++ " has " ++ Number.natText names.length ++
        " columns but " ++ Number.natText cells.length ++ " values were supplied"))

/-- Carry out a command. One that fails changes nothing. -/
def carryOut (db : Database) : Command → Except Fault Database
  | .create ifAbsent written table =>
    if ifAbsent && (db.table? table.name).isSome then .ok db else db.create written table
  | .drop ifPresent name =>
    match db.table? name with
    | some _ => .ok ⟨db.tables.filter fun t => !t.isNamed name⟩
    | none => if ifPresent then .ok db else .error (statementFault ("no such table: " ++ name))
  | .insert onConflict table columns rows => do
    let t ← db.writable table
    let rows ← namedCells t columns rows
    return (← db.insert onConflict table rows).2
  | .update table cells tests => do return (← db.update table cells tests).2
  | .delete table tests => do return (← db.delete table tests).2
  | .select columns table => do
    let t ← table.mapM db.readable
    match columns.find? fun c => (t.bind fun t => t.position? c).isNone with
    | some column => throw (statementFault ("no such column: " ++ column))
    | none => return db

end Database

end SqlGateway.Engine
