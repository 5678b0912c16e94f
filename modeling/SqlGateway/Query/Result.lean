import SqlGateway.Value

/-! Results of queries: the rows that were read under the labels of the query, or the number of rows
    that were written. -/

namespace SqlGateway

structure QueryResult where
  columns : List String
  rows : List Row
  rowsAffected : Option Nat
  elapsedMs : Nat
  deriving DecidableEq, Repr

namespace QueryResult

/-- Result of a query that reads. -/
def read (columns : List String) (rows : List Row) (elapsedMs : Nat) : QueryResult :=
  ⟨columns, rows, none, elapsedMs⟩

/-- Result of a query that writes. -/
def written (rowsAffected elapsedMs : Nat) : QueryResult := ⟨[], [], some rowsAffected, elapsedMs⟩

def toJson (r : QueryResult) : Json :=
  .obj ([("columns", .arr (r.columns.map .str)), ("rows", .arr (r.rows.map Row.toJson))] ++
    (r.rowsAffected.map fun n => ("rowsAffected", Json.int n)).toList ++
    [("executionTimeMs", .int r.elapsedMs)])

end QueryResult

end SqlGateway
