import SqlGateway.Schema.Catalog
import SqlGateway.Server.Binding
import SqlGateway.Server.CatalogStatement

/-! Reading the catalog of a server. Cells are taken by the label of their column, the last one of
    that label, and each has to be of a type that can hold what it means:

                      text                       truth        MySQL truth
        types         TEXT, VARCHAR, …           BOOL         BIGINT, …
        nothing       only where it may be       never        never                               -/

namespace SqlGateway.Server

/-- What a cell has to be. -/
inductive CellKind where
  | text
  | optionalText
  | truth
  deriving DecidableEq, Repr

namespace CellKind

/-- Types that hold what the kind means. -/
def accepted (driver : Driver) : CellKind → List String
  | .truth =>
    if driver = .mysql then ["BOOLEAN", "TINYINT", "SMALLINT", "MEDIUMINT", "INT", "BIGINT"]
    else ["BOOL"]
  | _ =>
    if driver = .mysql then
      ["VARCHAR", "CHAR", "TEXT", "TINYTEXT", "MEDIUMTEXT", "LONGTEXT", "ENUM"]
    else ["TEXT", "VARCHAR", "CHAR", "NAME", "UNKNOWN", "CITEXT"]

/-- How a complaint names the kind, and the type that it stands for. -/
def described (driver : Driver) : CellKind → String × String
  | .truth => if driver = .mysql then ("i64", "BIGINT") else ("bool", "BOOL")
  | .text => ("alloc::string::String", if driver = .mysql then "VARCHAR" else "TEXT")
  | .optionalText =>
    ("core::option::Option<alloc::string::String>", if driver = .mysql then "VARCHAR" else "TEXT")

end CellKind

/-- One row of a reply with its columns. -/
structure CatalogLine where
  columns : List (String × String)
  cells : List (Option (List UInt8))
  deriving DecidableEq, Repr

namespace CatalogLine

/-- The type and the content of the cell of a label. -/
def cell (l : CatalogLine) (label : String) : Except Fault (String × Option (List UInt8)) :=
  match (l.columns.zip l.cells).reverse.find? fun ((name, _), _) => name = label with
  | some ((_, type), bytes) => .ok (type, bytes)
  | none => .error (.columnNotFound label)

/-- A cell cannot be read. -/
def unreadable (label reason : String) : Fault := .columnDecode (Text.quoted label) reason

/-- The content of a cell, whose type has to be accepted where there is one. -/
def content (driver : Driver) (l : CatalogLine) (kind : CellKind) (label : String) :
    Except Fault (Option (List UInt8)) := do
  match ← l.cell label with
  | (_, none) =>
    if kind = .optionalText then return none
    else throw (unreadable label "unexpected null; try decoding as an \x60Option\x60")
  | (type, some bytes) =>
    if (kind.accepted driver).contains (Text.upper type) then return some bytes
    else
      let (name, standsFor) := kind.described driver
      throw (unreadable label
        ("mismatched types; Rust type \x60" ++ name ++ "\x60 (as SQL type \x60" ++ standsFor ++
          "\x60) is not compatible with SQL type \x60" ++ type ++ "\x60"))

/-- A text that may be absent. -/
def optionalText (driver : Driver) (l : CatalogLine) (kind : CellKind) (label : String) :
    Except Fault (Option String) := do
  match ← l.content driver kind label with
  | none => return none
  | some bytes =>
    match Text.ofUtf8? bytes with
    | some s => return some s
    | none => throw (unreadable label "invalid utf-8 sequence")

/-- A text. -/
def text (driver : Driver) (l : CatalogLine) (label : String) : Except Fault String :=
  (l.optionalText driver .text label).map fun s => s.getD ""

/-- A truth value: a cell with any byte that is not zero. -/
def truth (driver : Driver) (l : CatalogLine) (label : String) : Except Fault Bool :=
  (l.content driver .truth label).map fun bytes => (bytes.getD []).any (· != 0)

/-- The catalog row of a line. -/
def row (driver : Driver) (l : CatalogLine) : Except Fault CatalogRow := do
  let table ← l.text driver "table_name"
  let column ← l.text driver "column_name"
  let dataType ← l.text driver "data_type"
  let isRequired ← l.truth driver "is_required"
  let isPrimaryKey ← l.truth driver "is_primary_key"
  let foreignTable ← l.optionalText driver .optionalText "fk_table"
  let foreignColumn ← l.optionalText driver .optionalText "fk_column"
  return ⟨table, column, dataType, isRequired, isPrimaryKey,
    foreignKeyOf foreignTable foreignColumn⟩

/-- The routine row of a line. -/
def routine (driver : Driver) (l : CatalogLine) : Except Fault RoutineRow := do
  let name ← l.text driver "routine_name"
  let specificName ← l.text driver "specific_name"
  let argument ← l.optionalText driver .optionalText "argument_type"
  return ⟨name, specificName, argument⟩

end CatalogLine

namespace Call

/-- Number of the type of texts. -/
def textType : Nat := 25

/-- Parameters of the statement for tables: the name of the only table to show, if there is one. -/
def tableArguments (driver : Driver) (only : Option String) : List Argument :=
  let name := only.map Text.utf8
  if driver = .mysql then [⟨"VARCHAR", name⟩, ⟨"VARCHAR", name⟩] else [⟨"TEXT", name⟩]

/-- Run a catalog statement and read its lines one after another; a line that cannot be read comes
    before a complaint of the server. -/
def readCatalog {α : Type} (driver : Driver) (sql : String) (declared : List Nat)
    (arguments : List Argument) (read : CatalogLine → Except Fault α) :
    Work Call Fault (List α) := do
  let _ ← prepare driver sql declared
  let reply ← stream sql arguments
  let lines ← Work.ofExcept ((reply.rows.map (CatalogLine.mk reply.columns)).mapM read)
  let _ ← complete driver reply
  return lines

/-- Catalog rows of the tables, or of one of them. -/
def tables (driver : Driver) (only : Option String) : Work Call Fault (List CatalogRow) :=
  if driver = .mysql then
    readCatalog driver Mysql.tablesStatement [] (tableArguments driver only)
      (CatalogLine.row driver)
  else
    readCatalog driver Postgres.tablesStatement [textType] (tableArguments driver only)
      (CatalogLine.row driver)

/-- Catalog rows of the routines. -/
def routines (driver : Driver) : Work Call Fault (List RoutineRow) :=
  let sql := if driver = .mysql then Mysql.routinesStatement else Postgres.routinesStatement
  readCatalog driver sql [] [] (CatalogLine.routine driver)

end Call

end SqlGateway.Server
