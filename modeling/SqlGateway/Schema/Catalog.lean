import SqlGateway.Schema.Table

/-! Folding catalog rows into tables and routines.

    The catalog answers one row per column and constraint, sorted by table and position, and one row
    per routine and argument. Each row either continues the last entry or starts a new one:

        row            table = last table?   column = last column?   what it adds
        users id pk          -                       -               table, column, key
        users id             yes                     yes             nothing
        users org fk         yes                     no              column, foreign key
        sites id             no                      -               table, column

    A column keeps the type and the requirement of its first row, is a primary key if any of its
    rows says so and takes the first foreign key that occurs. -/

namespace SqlGateway

/-- A catalog row: a column, perhaps with one of its constraints. -/
structure CatalogRow where
  table : String
  column : String
  dataType : String
  isRequired : Bool
  isPrimaryKey : Bool
  foreignKey : Option ForeignKey
  deriving DecidableEq, Repr

/-- A catalog row of a routine: one of its arguments, if it has any. -/
structure RoutineRow where
  name : String
  specificName : String
  argument : Option String
  deriving DecidableEq, Repr

/-- A foreign key needs both of its halves. -/
def foreignKeyOf (table column : Option String) : Option ForeignKey := do return ⟨← table, ← column⟩

namespace CatalogRow

/-- The column that a row starts. -/
def toColumn (r : CatalogRow) : Column :=
  ⟨r.column, r.dataType, r.isRequired, r.isPrimaryKey, r.foreignKey⟩

/-- What a further row of a column adds to it. -/
def extend (r : CatalogRow) (c : Column) : Column :=
  { c with
    isPrimaryKey := c.isPrimaryKey || r.isPrimaryKey
    foreignKey := c.foreignKey <|> r.foreignKey }

/-- Add a row to the columns of its table. -/
def pushColumn (r : CatalogRow) (columns : List Column) : List Column :=
  match columns.getLast? with
  | some c =>
    if c.name = r.column then columns.dropLast ++ [r.extend c] else columns ++ [r.toColumn]
  | none => [r.toColumn]

/-- Add a row to the tables. -/
def push (tables : List Table) (r : CatalogRow) : List Table :=
  match tables.getLast? with
  | some t =>
    if t.name = r.table then tables.dropLast ++ [{ t with columns := r.pushColumn t.columns }]
    else tables ++ [⟨r.table, [r.toColumn]⟩]
  | none => [⟨r.table, [r.toColumn]⟩]

end CatalogRow

/-- Tables of catalog rows. -/
def foldTables (rows : List CatalogRow) : List Table := rows.foldl CatalogRow.push []

/-- Routines folded so far and the specific name of the last one. -/
structure RoutineFold where
  routines : List Routine := []
  current : Option String := none
  deriving DecidableEq, Repr

/-- Add a row to the routines. A change of the specific name starts a routine, so overloads of one
    name stay apart. -/
def RoutineFold.push (f : RoutineFold) (r : RoutineRow) : RoutineFold :=
  match f.routines.getLast? with
  | some last =>
    if f.current = some r.specificName then
      { f with
        routines := f.routines.dropLast ++
          [{ last with argumentTypes := last.argumentTypes ++ r.argument.toList }] }
    else ⟨f.routines ++ [⟨r.name, r.argument.toList⟩], some r.specificName⟩
  | none => ⟨[⟨r.name, r.argument.toList⟩], some r.specificName⟩

/-- Routines of catalog rows. -/
def foldRoutines (rows : List RoutineRow) : List Routine :=
  (rows.foldl RoutineFold.push {}).routines

end SqlGateway
