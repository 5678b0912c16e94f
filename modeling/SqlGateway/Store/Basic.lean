import SqlGateway.Query.Run
import SqlGateway.Store.Record

/-! Where the records of the registered connections are kept. Every write takes part in the
    transaction that it is handed, or in one of its own. -/

namespace SqlGateway

/-- A store of records. -/
structure Store (σ T : Type) extends Transactions σ T where
  /-- All records by name. -/
  list : Work σ Failure (List (String × ConnectionInfo))
  insert : Option T → String → ConnectionInfo → Work σ Failure Unit
  /-- Fails if there is no record of the identifier. -/
  update : Option T → String → ConnectionInfo → Work σ Failure Unit
  /-- Succeeds also if there is no record of the identifier. -/
  delete : Option T → String → Work σ Failure Unit

namespace Store

variable {σ P T : Type}

/-- Plan of a query of the store. -/
def planned (d : Dialect) (q : Query) : Work σ Failure Plan :=
  Work.ofExcept ((Plan.ofQuery d q).mapError Failure.ofRejection)

/-- Write with a query and count the records. -/
def write (db : Databases σ P T) (pool : P) (active : Option T) (id : String) (q : Query) :
    Work σ Failure Nat := do
  let p ← planned (db.pooled.dialect pool) q
  ((db.transactions pool).readCommitted active fun tx => db.joined.write tx p).report
    (Failure.intoPersist id)

/-- The store in a table of a database. -/
def ofPool (db : Databases σ P T) (pool : P) : Store σ T where
  toTransactions := db.transactions pool
  list := do
    let p ← Work.ofExcept
      ((Plan.ofSelect (db.pooled.dialect pool) Record.listQuery).mapError Failure.ofRejection)
    let rows ← (db.pooled.read pool p).report (Failure.intoPersist "*")
    Work.ofExcept (rows.mapM Record.ofRow)
  insert active id info := do
    let _ ← write db pool active id (Record.insertQuery id info)
  update active id info := do
    let count ← write db pool active id (Record.updateQuery id info)
    if count = 0 then Work.fail (.connectionNotFound id)
  delete active id := do
    let _ ← write db pool active id (Record.deleteQuery id)

end Store

end SqlGateway
