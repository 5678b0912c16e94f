import SqlGateway.Engine.Aggregate
import SqlGateway.Query.Plan

/-! Reading rows. A plan that reads is bound to the tables of the file and then carried out clause
    by clause:

        tables ▸ joins ▸ filters ▸ groups ▸ order ▸ window ▸ labelled rows

    Names are looked up before any row is read: tables in the order of the joins, then projections,
    filters, join conditions, sort keys. -/

namespace SqlGateway.Engine

/-- A table of a plan under its alias. -/
structure Source where
  aliasName : String
  table : StoredTable

/-- One row of each table, or none where an outer join found no partner. -/
abbrev JoinedRow := List (Option StoredRow)

/-- Where a column is found in a joined row; without a column, the number of the row. -/
structure Place where
  source : Nat
  column : Option Nat
  deriving DecidableEq, Repr

namespace Place

/-- The cell at a place. -/
def cell (row : JoinedRow) (p : Place) : Cell :=
  match row[p.source]?.join, p.column with
  | some r, some i => r.cell i
  | some r, none => .int (Int64.ofInt r.number)
  | none, _ => .null

/-- The column at a place; the number of a row is an integer. -/
def columnDef (sources : List Source) (p : Place) : ColumnDef :=
  (do (← sources[p.source]?).table.columns[← p.column]?).getD { name := "", declared := "INTEGER" }

/-- The affinity of the column at a place. -/
def affinity (sources : List Source) (p : Place) : Affinity := (p.columnDef sources).affinity

end Place

/-- Names of the number of a row where the table has no column of the name. -/
def isNumberName (name : String) : Bool := ["rowid", "oid", "_rowid_"].contains (Text.lower name)

/-- The place of a column. -/
def placeOf (sources : List Source) (c : Qualified) : Except Fault Place :=
  let named := (sources.mapIdx fun i s => (i, s)).filter fun (_, s) =>
    sameName s.aliasName c.aliasName
  let found := named.filterMap fun (i, s) =>
    (s.table.position? c.column).map fun k => (⟨i, some k⟩ : Place)
  let written := c.aliasName ++ "." ++ c.column
  match found with
  | [p] => .ok p
  | _ :: _ :: _ => .error (statementFault ("ambiguous column name: " ++ written))
  | [] =>
    match named.getLast? with
    | some (i, _) =>
      if isNumberName c.column then .ok ⟨i, none⟩
      else .error (statementFault ("no such column: " ++ written))
    | none => .error (statementFault ("no such column: " ++ written))

/-- An expression with its place. -/
structure BoundExpression where
  place : Place
  aggregate : Option Aggregate

/-- A join condition with its places. -/
structure BoundTest where
  left : Place
  comparison : Comparison
  right : Place

/-- A join with its conditions. -/
structure BoundJoin where
  kind : JoinKind
  table : StoredTable
  tests : List BoundTest

/-- Does an order meet a comparison? -/
def meets : Comparison → Ordering → Bool
  | .eq, o => o == .eq
  | .ne, o => o != .eq
  | .lt, o => o == .lt
  | .le, o => o != .gt
  | .gt, o => o == .gt
  | .ge, o => o != .lt

namespace BoundTest

/-- Does a joined row meet a condition? Nothing meets none. -/
def holds (sources : List Source) (row : JoinedRow) (t : BoundTest) : Bool :=
  let unify := Affinity.unify (t.left.affinity sources) (t.right.affinity sources)
  let a := t.left.cell row
  let b := t.right.cell row
  !a.isNull && !b.isNull && meets t.comparison ((unify a).order (unify b))

/-- Does a condition use tables among the first `n` only? -/
def within (n : Nat) (t : BoundTest) : Bool := t.left.source < n && t.right.source < n

end BoundTest

/-- Join the rows so far, of `width` tables, with the rows of one more table. -/
def joinRows (kind : JoinKind) (width : Nat) (right : List StoredRow) (holds : JoinedRow → Bool)
    (left : List JoinedRow) : List JoinedRow :=
  let partners (row : JoinedRow) : List JoinedRow :=
    (right.map fun r => row ++ [some r]).filter holds
  match kind with
  | .inner => left.flatMap partners
  | .left => left.flatMap fun row =>
      if (partners row).isEmpty then [row ++ [none]] else partners row
  | .right =>
    let alone := right.filter fun r => !left.any fun row => holds (row ++ [some r])
    left.flatMap partners ++ alone.map fun r => List.replicate width none ++ [some r]

/-- Carry out joins. A condition on tables that are joined later is left to the end. -/
def joinAll (sources : List Source) : Nat → List BoundJoin → List JoinedRow → List JoinedRow
  | _, [], rows => rows
  | width, j :: rest, rows =>
    let tests := j.tests.filter (BoundTest.within (width + 1))
    joinAll sources (width + 1) rest
      (joinRows j.kind width j.table.rows (fun row => tests.all (BoundTest.holds sources row)) rows)

/-- The conditions that are left to the end. -/
def lateTests : Nat → List BoundJoin → List BoundTest
  | _, [] => []
  | width, j :: rest =>
    (j.tests.filter fun t => !t.within (width + 1)) ++ lateTests (width + 1) rest

/-- An outer join, and any join of a plan with a right join, uses only tables that are there. -/
def checkScope (joins : List BoundJoin) : Nat → List BoundJoin → Except Fault Unit
  | _, [] => .ok ()
  | width, j :: rest =>
    let strict := j.kind ≠ .inner || joins.any fun k => k.kind = .right
    if strict && j.tests.any fun t => !t.within (width + 1) then
      .error (statementFault "ON clause references tables to its right")
    else checkScope joins (width + 1) rest

/-- Does a joined row pass a test of a column? -/
def passesAt (sources : List Source) (row : JoinedRow) : Place × Test → Bool
  | (p, .isNull) => (p.cell row).isNull
  | (p, .equals v) =>
    let cell := p.cell row
    let given := Cell.ofValue v
    !cell.isNull && !given.isNull && cell.same ((p.affinity sources).forComparison given)

namespace BoundExpression

/-- The cell of an expression over the rows of a group: an aggregate of all of them, or the column
    of the first one. -/
def cell (rows : List JoinedRow) (e : BoundExpression) : Except Fault Cell :=
  match e.aggregate with
  | some f => Engine.aggregate f (rows.map e.place.cell)
  | none => .ok (((rows.head?).map e.place.cell).getD .null)

/-- The value of an expression over a group. -/
def value (sources : List Source) (rows : List JoinedRow) (e : BoundExpression) :
    Except Fault Value :=
  (e.cell rows).map (Cell.toValue (e.aggregate.isNone && (e.place.columnDef sources).isTruth))

end BoundExpression

/-- Order of two lists of cells. -/
def orderCells : List Cell → List Cell → Ordering
  | a :: as, b :: bs => (a.order b).then (orderCells as bs)
  | _, _ => .eq

/-- Rows with equal keys form a group; groups stand in the order of their keys. -/
def groupRows (keys : List Place) (rows : List JoinedRow) : List (List JoinedRow) :=
  let keyOf (row : JoinedRow) : List Cell := keys.map (Place.cell row)
  let sorted := rows.mergeSort fun a b => orderCells (keyOf a) (keyOf b) != .gt
  sorted.splitBy fun a b => orderCells (keyOf a) (keyOf b) == .eq

/-- Order of two lists of sort cells; a descending key is turned around. -/
def orderSorted : List Bool → List Cell → List Cell → Ordering
  | descending :: rest, a :: as, b :: bs =>
    let o := a.order b
    (if descending then o.swap else o).then (orderSorted rest as bs)
  | _, _, _ => .eq

/-- Number of rows of a window bound, which has to be a signed 64-bit integer. -/
def windowBound (n : UInt64) : Except Fault Nat :=
  if n.toNat < Nat.pow 2 63 then .ok n.toNat else .error mismatch

/-- The bounds of a window: how many rows it skips, and how many it keeps. A window that keeps no
    row does not look at how many it skips. -/
def windowBounds (limit offset : Option UInt64) : Except Fault (Nat × Option Nat) := do
  match ← limit.mapM windowBound with
  | some 0 => return (0, some 0)
  | kept => return ((← offset.mapM windowBound).getD 0, kept)

/-- The rows inside a window. -/
def window {α : Type} (skipped : Nat) (kept : Option Nat) (rows : List α) : List α :=
  match kept with
  | some n => (rows.drop skipped).take n
  | none => rows.drop skipped

namespace Database

/-- The tables of a plan. -/
def sources (db : Database) (p : SelectPlan) : Except Fault (List Source) :=
  let named := (p.table, p.aliasName) :: p.joins.map fun j => (j.name, j.aliasName)
  named.mapM fun (name, aliasName) => do return ⟨aliasName, ← db.readable name⟩

/-- Bind an expression. -/
def bindExpression (sources : List Source) (e : Expression) : Except Fault BoundExpression := do
  return ⟨← placeOf sources e.target, e.aggregate⟩

/-- Bind the joins of a plan. -/
def bindJoins (sources : List Source) (joins : List JoinClause) : Except Fault (List BoundJoin) :=
  (joins.zip (sources.drop 1)).mapM fun (j, s) => do
    let tests ← j.tests.mapM fun t => do
      return ⟨← placeOf sources t.left, t.comparison, ← placeOf sources t.right⟩
    return ⟨j.kind, s.table, tests⟩

/-- Read the rows of a plan. -/
def read (db : Database) (p : SelectPlan) : Except Fault (List Row) := do
  let sources ← db.sources p
  let projections ← p.projections.mapM fun c => do
    return (c.label, ← bindExpression sources c.expression)
  let filters ← p.filters.mapM fun (c, t) => do return (← placeOf sources c, t)
  let joins ← bindJoins sources p.joins
  let sortKeys ← p.sortKeys.mapM fun k => bindExpression sources k.expression
  let groupKeys ← p.groupKeys.mapM (placeOf sources)
  checkScope joins 1 joins
  let (skipped, kept) ← windowBounds p.limit p.offset
  if kept = some 0 then return []
  let first := ((sources.head?).map fun s => s.table.rows.map fun r => [some r]).getD []
  let joined := joinAll sources 1 joins first
  let rows := joined.filter fun row =>
    (lateTests 1 joins).all (BoundTest.holds sources row) && filters.all (passesAt sources row)
  let isGrouped :=
    (projections.map Prod.snd ++ sortKeys).any fun e => e.aggregate.isSome
  let groups :=
    if !groupKeys.isEmpty then groupRows groupKeys rows
    else if isGrouped then [rows]
    else rows.map fun row => [row]
  let results ← groups.mapM fun group => do
    let sortCells ← sortKeys.mapM (BoundExpression.cell group)
    let cells ← projections.mapM fun (label, e) => do return (label, ← e.value sources group)
    return (sortCells, Row.ofCells cells)
  let descending := p.sortKeys.map SortKey.descending
  let sorted := results.mergeSort fun a b => orderSorted descending a.1 b.1 != .gt
  return window skipped kept (sorted.map Prod.snd)

end Database

end SqlGateway.Engine
