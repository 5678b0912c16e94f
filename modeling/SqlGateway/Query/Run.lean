import SqlGateway.Connection.Handle
import SqlGateway.Query.Compile
import SqlGateway.Query.Result
import SqlGateway.Schema.Catalog
import SqlGateway.Transaction.Basic

/-! Running queries. A query is planned for the dialect of whatever is to run it, a pool or a
    transaction, and then read or written. With a handle, the limit covers opening it as well;
    inside a transaction it covers the run alone. -/

namespace SqlGateway

/-- What runs plans: a pool or a transaction `H`. -/
structure Runner (σ H : Type) where
  dialect : H → Dialect
  read : H → SelectPlan → Work σ Failure (List Row)
  write : H → Plan → Work σ Failure Nat

namespace Runner

variable {σ H : Type}

/-- Plan a query. -/
def plan (r : Runner σ H) (h : H) (q : Query) : Work σ Failure Plan :=
  Work.ofExcept ((Plan.ofQuery (r.dialect h) q).mapError Failure.ofRejection)

/-- Run the plan of a query. -/
def execute (r : Runner σ H) (h : H) (q : Query) : Plan → Work σ Failure QueryResult
  | .select p => do return .read q.labels (← r.read h p) 0
  | p => do return .written (← r.write h p) 0

/-- Plan and run a query within a limit in milliseconds. -/
def runWithin (r : Runner σ H) (limit : Nat) (h : H) (q : Query) : Work σ Failure QueryResult := do
  let p ← r.plan h q
  (r.execute h q p).withDeadline limit

end Runner

/-- The databases that the gateway reaches: pools `P` and transactions `T` in them. -/
structure Databases (σ P T : Type) extends Opener σ P where
  transactions : P → Transactions σ T
  pooled : Runner σ P
  joined : Runner σ T
  /-- Catalog rows of all tables, or of the one that is named. -/
  tables : P → Option String → Work σ Failure (List CatalogRow)
  routines : P → Work σ Failure (List RoutineRow)

namespace Focus

variable {σ P T : Type}

/-- Open the handle if need be, and plan and run a query within a limit in milliseconds. -/
def run (db : Databases σ P T) (limit : Nat) (q : Query) : Work (Focus σ P) Failure QueryResult :=
  Work.withDeadline limit do
    let pool ← ensureOpen db.toOpener
    outward do
      let p ← db.pooled.plan pool q
      db.pooled.execute pool q p

end Focus

end SqlGateway
