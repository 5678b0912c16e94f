import SqlGateway.Engine.Affinity
import SqlGateway.Failure.Fault

/-! Tables of a database file: columns, keys and rows. Every row has a number; a single key column
    of type `INTEGER` is that number, so it is never empty. Names compare without case.

    A key is a set of columns on which no two rows agree; a row with nothing in one of them agrees
    with no other. -/

namespace SqlGateway.Engine

/-- What a column refers to; without a column, the first column of the primary key. -/
structure Reference where
  table : String
  column : Option String
  deriving DecidableEq, Repr

/-- A column of a table. -/
structure ColumnDef where
  name : String
  declared : String := ""
  isRequired : Bool := false
  default : Cell := .null
  reference : Option Reference := none
  deriving DecidableEq, Repr

/-- A set of columns on which no two rows agree. -/
structure Key where
  columns : List String
  isPrimary : Bool
  deriving DecidableEq, Repr

/-- A row: its number and its cells in the order of the columns. -/
structure StoredRow where
  number : Int
  cells : List Cell
  deriving DecidableEq, Repr

/-- The cell at a position. -/
def StoredRow.cell (r : StoredRow) (i : Nat) : Cell := r.cells[i]?.getD .null

/-- A table; `keys` stand in the order in which they were declared. -/
structure StoredTable where
  name : String
  columns : List ColumnDef
  primaryKey : List String := []
  keys : List Key := []
  rows : List StoredRow := []
  deriving DecidableEq, Repr

/-- All tables of a file, in the order of their creation. -/
structure Database where
  tables : List StoredTable := []
  deriving DecidableEq, Repr, Inhabited

/-- Do two names mean the same? -/
def sameName (a b : String) : Bool := Text.lower a == Text.lower b

/-- An answer of the engine that reports a fault, with its number. -/
def fault (number : Nat) (message : String) : Fault :=
  .database message (some (Number.natText number))
    ("(code: " ++ Number.natText number ++ ") " ++ message)

/-- A fault of a statement. -/
def statementFault (message : String) : Fault := fault 1 message

/-- The file cannot be opened. -/
def cannotOpen : Fault := fault 14 "unable to open database file"

/-- A cell does not fit where it has to be an integer. -/
def mismatch : Fault := fault 20 "datatype mismatch"

namespace ColumnDef

def affinity (c : ColumnDef) : Affinity := Affinity.ofDeclared c.declared

/-- Does the column hold truth values? -/
def isTruth (c : ColumnDef) : Bool := ["bool", "boolean"].contains (Text.lower c.declared)

/-- The declared type as the catalog shows it: the common names are in capitals. -/
def shownType (c : ColumnDef) : String :=
  let upper := Text.upper c.declared
  if ["ANY", "BLOB", "INT", "INTEGER", "REAL", "TEXT"].contains upper then upper else c.declared

end ColumnDef

namespace StoredTable

/-- Position of a column. -/
def position? (t : StoredTable) (name : String) : Option Nat :=
  t.columns.findIdx? fun c => sameName c.name name

/-- The column that is the number of the row. -/
def numberColumn? (t : StoredTable) : Option Nat :=
  match t.primaryKey with
  | [name] => (t.position? name).filter fun i =>
      (t.columns[i]?).any fun c => Text.upper c.declared == "INTEGER"
  | _ => none

/-- Is the table the one with the name? -/
def isNamed (t : StoredTable) (name : String) : Bool := sameName t.name name

/-- The number that a new row takes: one more than the largest, one in an empty table. -/
def nextNumber (t : StoredTable) : Int :=
  match t.rows.map StoredRow.number with
  | [] => 1
  | n :: rest => rest.foldl max n + 1

/-- The key of one column that needs no index of its own, since it is the number of the row. -/
def isNumberKey (t : StoredTable) (k : Key) : Bool :=
  t.numberColumn?.isSome && k.isPrimary

/-- The keys that are kept beside the rows. -/
def indexes (t : StoredTable) : List Key := t.keys.filter fun k => !t.isNumberKey k

/-- Lines of the list of tables: the table itself and its indexes. -/
def listed (t : StoredTable) : List (List Cell) :=
  [.text "table", .text t.name, .text t.name] ::
    t.indexes.mapIdx fun i _ =>
      [.text "index", .text ("sqlite_autoindex_" ++ t.name ++ "_" ++ Number.natText (i + 1)),
        .text t.name]

/-- Put a row among the others, in the order of the numbers. -/
def place (r : StoredRow) : List StoredRow → List StoredRow
  | [] => [r]
  | s :: rest => if r.number < s.number then r :: s :: rest else s :: place r rest

end StoredTable

namespace Database

/-- The table with a name. -/
def table? (db : Database) (name : String) : Option StoredTable := db.tables.find? (·.isNamed name)

/-- Name of the table that lists the tables. -/
def listing : String := "sqlite_master"

/-- The table that lists the tables. -/
def listingTable (db : Database) : StoredTable where
  name := listing
  columns := ["type", "name", "tbl_name"].map fun name => { name, declared := "TEXT" }
  rows := (db.tables.flatMap StoredTable.listed).mapIdx fun i cells => ⟨i + 1, cells⟩

/-- The table that a statement reads. -/
def readable (db : Database) (name : String) : Except Fault StoredTable :=
  match db.table? name with
  | some t => .ok t
  | none =>
    if sameName name listing then .ok db.listingTable
    else .error (statementFault ("no such table: " ++ name))

/-- The table that a statement writes. -/
def writable (db : Database) (name : String) : Except Fault StoredTable :=
  match db.table? name with
  | some t => .ok t
  | none =>
    if sameName name listing then
      .error (statementFault ("table " ++ listing ++ " may not be modified"))
    else .error (statementFault ("no such table: " ++ name))

/-- Put a changed table in the place of the old one. -/
def replace (db : Database) (t : StoredTable) : Database :=
  ⟨db.tables.map fun old => if old.isNamed t.name then t else old⟩

/-- First name that a list of columns has twice. -/
def repeatedName? : List ColumnDef → Option String
  | [] => none
  | cs => (cs.mapIdx fun i c => (i, c)).findSome? fun (i, c) =>
      if (cs.take i).any fun d => sameName d.name c.name then some c.name else none

/-- Create a table; `written` is its name as the statement writes it. -/
def create (db : Database) (written : String) (t : StoredTable) : Except Fault Database :=
  if (Text.lower t.name).startsWith "sqlite_" then
    .error (statementFault ("object name reserved for internal use: " ++ t.name))
  else if (db.table? t.name).isSome then
    .error (statementFault ("table " ++ written ++ " already exists"))
  else
    match repeatedName? t.columns with
    | some name => .error (statementFault ("duplicate column name: " ++ name))
    | none => .ok ⟨db.tables ++ [t]⟩

end Database

end SqlGateway.Engine
