import SqlGateway.Query.JoinPlan
import SqlGateway.Dialect

/-! Plans: what is left of a query once it is known to be sound. Every column is bound to the alias
    of a table, joins stand in the order of their clauses, filters without a value are gone and a
    filter for null has become a test of its own.

    `Plan.ofQuery` checks in the order in which a statement is written, so of several faults the one
    met first is reported. -/

namespace SqlGateway

/-- A column of the table with an alias. -/
structure Qualified where
  aliasName : String
  column : String
  deriving DecidableEq, Repr

/-- A column or an aggregate of one. -/
structure Expression where
  target : Qualified
  aggregate : Option Aggregate
  deriving DecidableEq, Repr

/-- A projected expression under its label. -/
structure Projection where
  expression : Expression
  label : String
  deriving DecidableEq, Repr

/-- A condition of a join clause. -/
structure JoinTest where
  left : Qualified
  comparison : Comparison
  right : Qualified
  deriving DecidableEq, Repr

/-- A join clause. -/
structure JoinClause where
  kind : JoinKind
  name : String
  aliasName : String
  tests : List JoinTest
  deriving DecidableEq, Repr

/-- What a filter asks of a column. -/
inductive Test where
  | isNull
  | equals (value : Value)
  deriving DecidableEq, Repr

/-- The test of a filter value. -/
def Test.ofValue : Value → Test
  | .null => .isNull
  | v => .equals v

/-- A sort key. -/
structure SortKey where
  expression : Expression
  descending : Bool
  deriving DecidableEq, Repr

/-- A plan that reads. -/
structure SelectPlan where
  table : String
  aliasName : String
  joins : List JoinClause
  projections : List Projection
  filters : List (Qualified × Test)
  groupKeys : List Qualified
  sortKeys : List SortKey
  limit : Option UInt64
  offset : Option UInt64
  deriving DecidableEq, Repr

/-- What a query does, bound to its tables. -/
inductive Plan where
  | select (plan : SelectPlan)
  | insert (table : String) (cells : List (String × Value))
  | update (table : String) (cells : List (String × Value)) (filters : List (String × Test))
  | delete (table : String) (filters : List (String × Test))
  deriving DecidableEq, Repr

namespace Plan

/-- Bind a projected column; its label has to fit an identifier of the dialect. -/
def project (joins : JoinPlan) (root : TableKey) (limit : Option Nat) (c : ColumnRef) :
    Except Rejection Projection := do
  let aliasName ← joins.resolve root c
  let label := c.label root
  if limit.any fun n => n < label.utf8ByteSize then throw (.longLabel label (limit.getD 0))
  return ⟨⟨⟨aliasName, c.name⟩, c.aggregate⟩, label⟩

/-- Bind a condition of a join. -/
def bindTest (joins : JoinPlan) (root : TableKey) (c : Condition) : Except Rejection JoinTest := do
  if c.left.aggregate.isSome || c.right.aggregate.isSome then throw .aggregateInJoin
  return ⟨⟨← joins.resolve root c.left, c.left.name⟩, c.comparison,
    ⟨← joins.resolve root c.right, c.right.name⟩⟩

/-- Bind a join, which needs a condition. -/
def bindJoin (joins : JoinPlan) (root : TableKey) (j : Join) : Except Rejection JoinClause := do
  if j.conditions.isEmpty then throw (.unconditionalJoin j.table.aliasName)
  return ⟨j.kind, j.table.name, j.table.aliasName, ← j.conditions.mapM (bindTest joins root)⟩

/-- The test of a filter, if it has a value. -/
def filterTest (c : ColumnRef) : Except Rejection (Option Test) :=
  if c.aggregate.isSome then .error (.aggregateInFilter c.name) else .ok (c.value.map Test.ofValue)

/-- Bind a filter, which counts if it has a value. -/
def bindFilter (joins : JoinPlan) (root : TableKey) (c : ColumnRef) :
    Except Rejection (Option (Qualified × Test)) := do
  let aliasName ← joins.resolve root c
  return (← filterTest c).map fun test => (⟨aliasName, c.name⟩, test)

/-- Bind a sort key. -/
def bindSort (joins : JoinPlan) (root : TableKey) (c : ColumnRef) : Except Rejection SortKey := do
  return ⟨⟨⟨← joins.resolve root c, c.name⟩, c.aggregate⟩, c.descending⟩

/-- Keys of the groups: the plain columns of a projection that also has aggregates. -/
def groupKeys (projections : List Projection) : List Qualified :=
  let plain := projections.filter (·.expression.aggregate.isNone)
  if projections.any (·.expression.aggregate.isSome) then plain.map (·.expression.target) else []

/-- Plan of a query that reads. -/
def ofSelect (d : Dialect) (q : Query) : Except Rejection SelectPlan := do
  if q.columns.isEmpty then throw .noProjection
  let joins ← JoinPlan.ofTree q.table
  let projections ← q.columns.mapM (project joins q.root d.maxIdentifierLength)
  let clauses ← joins.joins.mapM (bindJoin joins q.root)
  let filters ← q.filters.mapM (bindFilter joins q.root)
  let sortKeys ← q.orderBy.mapM (bindSort joins q.root)
  return {
    table := q.table.name
    aliasName := q.table.aliasName
    joins := clauses
    projections := projections
    filters := filters.filterMap id
    groupKeys := groupKeys projections
    sortKeys := sortKeys
    limit := q.limit
    offset := q.offset }

/-- A column that a write names carries no aggregate and belongs to the table written. -/
def checkWritten (q : Query) (c : ColumnRef) : Except Rejection Unit :=
  if c.aggregate.isSome then .error (.aggregateInWrite q.kind)
  else if c.tableAlias q.root ≠ q.table.aliasName then .error (.foreignColumn c.name q.table.name)
  else .ok ()

/-- A write addresses one table, without order or window. -/
def checkSingleTable (q : Query) : Except Rejection Unit := do
  if !q.table.joins.isEmpty then throw (.joinsInWrite q.kind)
  if !q.orderBy.isEmpty || q.limit.isSome || q.offset.isSome then throw (.orderInWrite q.kind)
  (q.columns ++ q.filters).forM (checkWritten q)

/-- Cells of a write; a column without a value is written as null. -/
def cells (columns : List ColumnRef) : List (String × Value) :=
  columns.map fun c => (c.name, c.value.getD .null)

/-- Filters of an update or a delete; none at all has to be allowed. -/
def writeFilters (q : Query) : Except Rejection (List (String × Test)) := do
  let tests ← q.filters.mapM fun c => do return (← filterTest c).map fun test => (c.name, test)
  let filters := tests.filterMap id
  if filters.isEmpty && !q.allowUnfiltered then throw (.unfilteredWrite q.kind)
  return filters

/-- Plan of a query for a dialect. -/
def ofQuery (d : Dialect) (q : Query) : Except Rejection Plan := do
  match q.kind with
  | .select => return .select (← ofSelect d q)
  | .insert =>
    checkSingleTable q
    if q.columns.isEmpty then throw .insertWithoutColumns
    if !q.filters.isEmpty then throw .insertWithFilters
    return .insert q.table.name (cells q.columns)
  | .update =>
    checkSingleTable q
    if q.columns.isEmpty then throw .updateWithoutColumns
    return .update q.table.name (cells q.columns) (← writeFilters q)
  | .delete =>
    checkSingleTable q
    if !q.columns.isEmpty then throw .deleteWithColumns
    return .delete q.table.name (← writeFilters q)

end Plan

end SqlGateway
