import SqlGateway.Proofs.Query.NormalForm
import Mathlib.Logic.Function.Basic

/-! What statements mean to tables that keep what is bound. A stored row has a value in every column,
    null where none was written. The meaning is read off the text and the arguments of a statement
    alone:

        INSERT INTO t (a) VALUES (1)       one more row with 1 under a
        UPDATE t SET a = 1 WHERE b = 2     1 under a in every row with 2 under b
        DELETE FROM t WHERE b = 2          no row with 2 under b
        SELECT t.a "t.a" FROM t t …        rows that pass, in order, each as its labels with cells

    Cells are compared as they were bound, and nothing is equal to null. Reads of several tables and
    reads of groups are left out. -/

namespace SqlGateway

open Statement

/-- A stored row: what every column holds. -/
abbrev Tuple := String → Value

/-- The rows of every table. -/
abbrev Tables := String → List Tuple

/-- Is the test true of a cell? -/
def Test.holds (t : Test) (cell : Value) : Bool :=
  match t with
  | .isNull => cell.isNull
  | .equals v => !cell.isNull && cell == v

namespace Tuple

/-- A row that nothing was written to. -/
def blank : Tuple := fun _ => .null

def passes (row : Tuple) (tests : List (String × Test)) : Bool :=
  tests.all fun (c, t) => t.holds (row c)

/-- The row with some cells written. -/
def write (row : Tuple) (cells : List (String × Value)) : Tuple :=
  fun c => (cells.lookup c).getD (row c)

/-- Does a row stand before another one by these keys, or are they level? -/
def precedes (le : Value → Value → Bool) : List SortKey → Tuple → Tuple → Bool
  | [], _, _ => true
  | k :: ks, row, other =>
    let c := k.expression.target.column
    let (a, b) := if k.descending then (other c, row c) else (row c, other c)
    le a b && (!le b a || precedes le ks row other)

end Tuple

/-- Rows from an offset on, up to a limit. -/
def windowOf {α : Type} (limit offset : Option UInt64) (rows : List α) : List α :=
  let rest := rows.drop ((offset.map UInt64.toNat).getD 0)
  match limit with
  | some n => rest.take n.toNat
  | none => rest

namespace NormalForm

/-- What a write makes of the tables, and the number of rows that it wrote. -/
def write : NormalForm → Tables → Option (Nat × Tables)
  | .insert table cells, ts =>
    some (1, Function.update ts table (ts table ++ [Tuple.blank.write cells]))
  | .update table cells tests, ts =>
    some ((ts table).countP (·.passes tests), Function.update ts table
      ((ts table).map fun row => if row.passes tests then row.write cells else row))
  | .delete table tests, ts =>
    some ((ts table).countP (·.passes tests), Function.update ts table
      ((ts table).filter fun row => !row.passes tests))
  | .select _, _ => none

/-- The label at the end of a projected item. -/
def label? (ps : List Part) : Option String :=
  match ps.getLast? with
  | some (.identifier label) => some label
  | _ => none

end NormalForm

namespace SelectForm

/-- Is it a read of one table, without aggregates? -/
def isPlain (f : SelectForm) : Bool :=
  f.joins.isEmpty && f.projections.all (·.aggregate.isNone) &&
    f.sortKeys.all (·.expression.aggregate.isNone)

/-- The stored rows that a read shows, by an order of values. -/
def tuples (le : Value → Value → Bool) (f : SelectForm) (ts : Tables) : List Tuple :=
  let passing := (ts f.table).filter (·.passes (f.filters.map fun (c, t) => (c.column, t)))
  windowOf f.limit f.offset (passing.mergeSort (Tuple.precedes le f.sortKeys))

/-- A stored row as a read shows it under its labels. -/
def row (f : SelectForm) (labels : List String) (t : Tuple) : Row :=
  Row.ofCells (labels.zip (f.projections.map fun e => t e.target.column))

end SelectForm

namespace Statement

/-- The labels of the columns that a statement reads. -/
def labels? (d : Dialect) (s : Statement) : Option (List String) :=
  (s.clauses? d).bind fun cs => (NormalForm.itemsOf "SELECT" (.mark ",") cs).mapM NormalForm.label?

/-- What a statement makes of the tables, and the number of rows that it wrote. -/
def write (d : Dialect) (s : Statement) (ts : Tables) : Option (Nat × Tables) :=
  (s.normalForm? d).bind (·.write ts)

/-- The rows that a statement reads from the tables, by an order of values. -/
def readRows (d : Dialect) (le : Value → Value → Bool) (s : Statement) (ts : Tables) :
    Option (List Row) := do
  let labels ← s.labels? d
  match ← s.normalForm? d with
  | .select f => if f.isPlain then some ((f.tuples le ts).map (f.row labels)) else none
  | _ => none

end Statement

/-! ### Meaning of compiled queries -/

namespace NormalForm

theorem label?_parts (p : Projection) : label? (Plan.projectionParts p) = some p.label := by
  simp [label?, Plan.projectionParts]

theorem labels_clauses (d : Dialect) (p : SelectPlan) :
    (itemsOf "SELECT" (.mark ",") (Plan.selectClauses d p)).mapM label? =
      some (p.projections.map (·.label)) := by
  have hs : bodies "SELECT" (Plan.selectClauses d p) =
      [[.mark ","].intercalate (p.projections.map Plan.projectionParts)] := by
    simp (disch := decide) [bodies_select d p, Plan.selectEnd, bodies_listClause_ne,
      bodies_window_ne]
  rw [itemsOf, hs]
  simpa using mapM_items isApart_projection label?_parts p.projections

end NormalForm

namespace Query

variable {d : Dialect} {q : Query} {s : Statement}

/-- A statement names the labels of the query it was compiled from. -/
theorem labels?_compile (hk : q.kind = .select) (h : q.compile d = .ok s) :
    s.labels? d = some q.labels := by
  have hp : q.plan = .select q.selectPlan := by rw [plan, hk]
  have hl : q.selectPlan.projections.map (·.label) = q.labels := List.map_map ..
  rw [Statement.labels?, clauses?_compile h, Option.bind_some, hp, ← hl]
  exact NormalForm.labels_clauses d q.selectPlan

theorem write_compile (h : q.compile d = .ok s) (ts : Tables) :
    s.write d ts = (q.normalForm d).write ts := by
  rw [Statement.write, normalForm?_compile h, Option.bind_some]

/-- What a query reads of one table. -/
theorem readRows_compile (hk : q.kind = .select) (h : q.compile d = .ok s) {f : SelectForm}
    (hf : q.normalForm d = .select f) (hp : f.isPlain = true) (le : Value → Value → Bool)
    (ts : Tables) : s.readRows d le ts = some ((f.tuples le ts).map (f.row q.labels)) := by
  simp [Statement.readRows, labels?_compile hk h, normalForm?_compile h, hf, hp]

end Query

end SqlGateway
