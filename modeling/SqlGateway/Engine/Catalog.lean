import SqlGateway.Engine.Table
import SqlGateway.Schema.Catalog

/-! The catalog of a database file: one row per column of each table. A foreign key that names no
    column means the first column of the primary key of its table, and is none if there is no such
    column. Tables of the engine itself are not shown. -/

namespace SqlGateway.Engine

namespace Database

/-- The foreign key of a column. -/
def foreignKey (db : Database) (c : ColumnDef) : Option ForeignKey :=
  c.reference.bind fun ref =>
    let first := (db.table? ref.table).bind fun t => t.primaryKey.head?
    foreignKeyOf (some ref.table) (ref.column <|> first)

/-- Catalog rows of a table. -/
def tableRows (db : Database) (t : StoredTable) : List CatalogRow :=
  t.columns.map fun c =>
    let isKey := t.primaryKey.any fun name => sameName name c.name
    ⟨t.name, c.name, c.shownType, c.isRequired || isKey, isKey, db.foreignKey c⟩

/-- Catalog rows of all tables, or of the one with exactly the given name. -/
def catalog (db : Database) (only : Option String) : List CatalogRow :=
  let shown := db.tables.filter fun t =>
    !(Text.lower t.name).startsWith "sqlite_" && only.all fun name => name = t.name
  (shown.mergeSort fun a b => decide (a.name ≤ b.name)).flatMap db.tableRows

end Database

end SqlGateway.Engine
