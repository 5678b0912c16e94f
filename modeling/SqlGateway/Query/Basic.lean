import SqlGateway.Value

/-! Structured descriptions of queries.

    A query names a tree of tables, the columns it projects or writes, filters, an order and a
    window of rows. It holds no SQL text. A table occurs in the tree under its own name or, for a
    repeated use, under the name followed by the number of the occurrence:

        staff ──left──▶ staff1        aliases: staff, staff1
              └─inner─▶ site          output labels: staff.name, count(site.id)

    A column without a table belongs to the root of the tree. -/

namespace SqlGateway

open Number (natText)

/-- What a query does. -/
inductive QueryKind where
  | select
  | insert
  | update
  | delete
  deriving DecidableEq, Repr

/-- The verb in capitals. -/
def QueryKind.verb : QueryKind → String
  | .select => "SELECT"
  | .insert => "INSERT"
  | .update => "UPDATE"
  | .delete => "DELETE"

/-- One occurrence of a table. -/
structure TableKey where
  name : String
  occurrence : UInt32 := 0
  deriving DecidableEq, Repr

/-- The bare name for occurrence zero, else the name and the number. -/
def TableKey.aliasName (k : TableKey) : String :=
  if k.occurrence = 0 then k.name else k.name ++ natText k.occurrence.toNat

/-- How the rows of a joined table are kept. -/
inductive JoinKind where
  | inner
  | left
  | right
  deriving DecidableEq, Repr

/-- Words that open the join. -/
def JoinKind.keyword : JoinKind → String
  | .inner => "JOIN"
  | .left => "LEFT JOIN"
  | .right => "RIGHT JOIN"

/-- Comparison of two columns. -/
inductive Comparison where
  | eq
  | ne
  | lt
  | le
  | gt
  | ge
  deriving DecidableEq, Repr

def Comparison.symbol : Comparison → String
  | .eq => "="
  | .ne => "!="
  | .lt => "<"
  | .le => "<="
  | .gt => ">"
  | .ge => ">="

/-- Aggregate of a column. -/
inductive Aggregate where
  | count
  | sum
  | avg
  | min
  | max
  deriving DecidableEq, Repr

def Aggregate.name : Aggregate → String
  | .count => "count"
  | .sum => "sum"
  | .avg => "avg"
  | .min => "min"
  | .max => "max"

/-- A column of some table of the tree. `descending` matters in the order only, `value` in filters
    and in the columns that a query writes. -/
structure ColumnRef where
  table : Option TableKey := none
  name : String
  aggregate : Option Aggregate := none
  descending : Bool := false
  value : Option Value := none
  deriving DecidableEq, Repr

namespace ColumnRef

/-- Alias of the table that a column belongs to. -/
def tableAlias (c : ColumnRef) (root : TableKey) : String := (c.table.getD root).aliasName

/-- Output label: `alias.name`, inside the aggregate if there is one. -/
def label (c : ColumnRef) (root : TableKey) : String :=
  let dimension := c.tableAlias root ++ "." ++ c.name
  match c.aggregate with
  | some f => f.name ++ "(" ++ dimension ++ ")"
  | none => dimension

end ColumnRef

/-- A condition between two columns. -/
structure Condition where
  left : ColumnRef
  comparison : Comparison := .eq
  right : ColumnRef
  deriving DecidableEq, Repr

mutual

/-- A table and the tables joined to it. -/
inductive JoinTree where
  | node (key : TableKey) (joins : List Join)
  deriving Repr

/-- A table joined to another one, with all that hangs below it. -/
inductive Join where
  | mk (kind : JoinKind) (conditions : List Condition) (table : JoinTree)
  deriving Repr

end

def Join.kind : Join → JoinKind
  | .mk kind _ _ => kind

def Join.conditions : Join → List Condition
  | .mk _ conditions _ => conditions

def Join.table : Join → JoinTree
  | .mk _ _ table => table

namespace JoinTree

def key : JoinTree → TableKey
  | .node key _ => key

def joins : JoinTree → List Join
  | .node _ joins => joins

def name (t : JoinTree) : String := t.key.name

def aliasName (t : JoinTree) : String := t.key.aliasName

mutual

/-- Number of table occurrences, the root included. -/
def tableCount : JoinTree → Nat
  | .node _ joins => 1 + joinedCount joins

/-- Number of table occurrences below a list of joins. -/
def joinedCount : List Join → Nat
  | [] => 0
  | .mk _ _ table :: rest => tableCount table + joinedCount rest

end

/-- A table without joins. -/
def leaf (key : TableKey) : JoinTree := .node key []

end JoinTree

/-- One query. -/
structure Query where
  kind : QueryKind
  table : JoinTree
  columns : List ColumnRef := []
  orderBy : List ColumnRef := []
  filters : List ColumnRef := []
  limit : Option UInt64 := none
  offset : Option UInt64 := none
  /-- May an update or a delete go without a condition? -/
  allowUnfiltered : Bool := false

namespace Query

/-- A query of one table, with nothing else said yet. -/
def on (kind : QueryKind) (table : String) : Query :=
  ⟨kind, .leaf ⟨table, 0⟩, [], [], [], none, none, false⟩

def root (q : Query) : TableKey := q.table.key

def addColumn (q : Query) (c : ColumnRef) : Query := { q with columns := q.columns ++ [c] }

def addOrder (q : Query) (c : ColumnRef) : Query := { q with orderBy := q.orderBy ++ [c] }

def addFilter (q : Query) (c : ColumnRef) : Query := { q with filters := q.filters ++ [c] }

/-- Labels of the projected columns, in order. -/
def labels (q : Query) : List String := q.columns.map (·.label q.root)

end Query

end SqlGateway
