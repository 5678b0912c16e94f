import SqlGateway.Json.Decode

/-! Tables and routines as the catalog of a database describes them, and their documents. -/

namespace SqlGateway

/-- The column that a foreign key refers to. -/
structure ForeignKey where
  table : String
  column : String
  deriving DecidableEq, Repr

/-- A column of a table. -/
structure Column where
  name : String
  dataType : String
  isRequired : Bool
  isPrimaryKey : Bool := false
  foreignKey : Option ForeignKey := none
  deriving DecidableEq, Repr

/-- A table with its columns in order. -/
structure Table where
  name : String
  columns : List Column
  deriving DecidableEq, Repr

/-- A stored routine with the types of its input arguments. -/
structure Routine where
  name : String
  argumentTypes : List String
  deriving DecidableEq, Repr

namespace ForeignKey

def toJson (k : ForeignKey) : Json :=
  .obj [("tableName", .str k.table), ("columnName", .str k.column)]

private structure Draft where
  table : Option String := none
  column : Option String := none

def decoder : Json.Decoder ForeignKey :=
  Json.record
    [⟨"tableName", false, fun d => d.table.isSome,
      fun d => Json.string.map fun s => { d with table := some s }⟩,
     ⟨"columnName", false, fun d => d.column.isSome,
      fun d => Json.string.map fun s => { d with column := some s }⟩]
    ({} : Draft)
    fun d => do return ⟨← d.table, ← d.column⟩

end ForeignKey

namespace Column

def toJson (c : Column) : Json :=
  .obj ([("name", .str c.name), ("type", .str c.dataType), ("isRequired", .bool c.isRequired),
    ("isPK", .bool c.isPrimaryKey)] ++ (c.foreignKey.map fun k => ("fk", k.toJson)).toList)

private structure Draft where
  name : Option String := none
  dataType : Option String := none
  isRequired : Option Bool := none
  isPrimaryKey : Option Bool := none
  foreignKey : Option (Option ForeignKey) := none

def decoder : Json.Decoder Column :=
  Json.record
    [⟨"name", false, fun d => d.name.isSome,
      fun d => Json.string.map fun s => { d with name := some s }⟩,
     ⟨"type", false, fun d => d.dataType.isSome,
      fun d => Json.string.map fun s => { d with dataType := some s }⟩,
     ⟨"isRequired", false, fun d => d.isRequired.isSome,
      fun d => Json.boolean.map fun b => { d with isRequired := some b }⟩,
     ⟨"isPK", false, fun d => d.isPrimaryKey.isSome,
      fun d => Json.boolean.map fun b => { d with isPrimaryKey := some b }⟩,
     ⟨"fk", true, fun d => d.foreignKey.isSome,
      fun d => (Json.optional ForeignKey.decoder).map fun k => { d with foreignKey := some k }⟩]
    ({} : Draft)
    fun d => do
      return ⟨← d.name, ← d.dataType, ← d.isRequired, ← d.isPrimaryKey, d.foreignKey.join⟩

end Column

namespace Table

def toJson (t : Table) : Json :=
  .obj [("name", .str t.name), ("columnList", .arr (t.columns.map Column.toJson))]

private structure Draft where
  name : Option String := none
  columns : Option (List Column) := none

def decoder : Json.Decoder Table :=
  Json.record
    [⟨"name", false, fun d => d.name.isSome,
      fun d => Json.string.map fun s => { d with name := some s }⟩,
     ⟨"columnList", false, fun d => d.columns.isSome,
      fun d => (Json.list Column.decoder).map fun cs => { d with columns := some cs }⟩]
    ({} : Draft)
    fun d => do return ⟨← d.name, ← d.columns⟩

/-- The table of a JSON text. -/
def ofText (s : String) : Except Json.Defect Table := Json.decode decoder s

/-- The column of a name. -/
def column? (t : Table) (name : String) : Option Column := t.columns.find? (·.name == name)

/-- Names of the primary key columns in order. -/
def primaryKey (t : Table) : List String := (t.columns.filter (·.isPrimaryKey)).map (·.name)

end Table

def Routine.toJson (r : Routine) : Json :=
  .obj [("name", .str r.name), ("typeList", .arr (r.argumentTypes.map .str))]

end SqlGateway
