import SqlGateway.Engine.Catalog
import SqlGateway.Engine.Read
import SqlGateway.Engine.Write
import SqlGateway.Query.Run
import SqlGateway.Server.Catalog
import SqlGateway.Site.Basic

/-! The databases outside: plans run by the engine on files and told to servers as statements. A
    transaction is known by its pool, since a pool has one connection; as long as it lasts nobody
    else can use the pool. -/

namespace SqlGateway.Site

/-- A pool that is not held by a transaction. -/
def free (id : PoolId) : Work Site Fault Pool := do
  let p ← usable id
  if p.copy.isSome then Work.fail .poolTimedOut else return p

/-- Say something to the server over a connection that is fit for use. -/
def tell {α : Type} (id : PoolId) (login : Server.Login) (link : Server.Link)
    (w : Work Server.Call Failure α) : Work Site Failure α :=
  talk id link do
    (Server.Call.settle login).report Fault.toFailure
    w

/-- Run a statement on the server of a pool. -/
def runStatement (id : PoolId) (s : Statement) : Work Site Failure (Driver × Server.Reply) := do
  let p ← (usable id).report Fault.toFailure
  match p.target with
  | .server login link =>
    return (login.driver, ← tell id login link (Server.Call.run login.driver s))
  | _ => Work.fail (.internal "no server")

/-- Read rows with a statement. -/
def fetch (id : PoolId) (s : Statement) : Work Site Failure (List Row) := do
  let (driver, reply) ← runStatement id s
  return reply.valueRows driver

/-- Write with a statement and count the rows. -/
def execute (id : PoolId) (s : Statement) : Work Site Failure Nat := do
  let (driver, reply) ← runStatement id s
  return reply.affectedCount driver

/-- The pool may only be read. -/
def readOnly : Fault := Engine.fault 8 "attempt to write a readonly database"

/-- Keep what was written, which has to be nothing if the pool may only be read. -/
def keepWritten (id : PoolId) (p : Pool) (before after : Engine.Database) : Work Site Fault Unit :=
  if p.isReadOnly then if after = before then return () else Work.fail readOnly
  else Work.change (keep id p after)

/-- Read with a plan. -/
def readWith (get : PoolId → Work Site Fault Pool) (id : PoolId) (plan : SelectPlan) :
    Work Site Failure (List Row) := do
  let p ← (get id).report Fault.toFailure
  match p.target with
  | .server login _ => fetch id ((Plan.select plan).statement login.driver.dialect)
  | _ => (Work.ofExcept (((← Work.state).content p).read plan)).report Fault.toFailure

/-- Write with a plan and count the rows. -/
def writeWith (get : PoolId → Work Site Fault Pool) (id : PoolId) (plan : Plan) :
    Work Site Failure Nat := do
  let p ← (get id).report Fault.toFailure
  match p.target with
  | .server login _ => execute id (plan.statement login.driver.dialect)
  | _ => Work.report Fault.toFailure do
    let before := (← Work.state).content p
    let (count, after) ← Work.ofExcept (before.write plan)
    keepWritten id p before after
    return count

/-- Plans run in a pool that is got in a way. -/
def runner (get : PoolId → Work Site Fault Pool) : Runner Site PoolId where
  dialect id := id.driver.dialect
  read := readWith get
  write := writeWith get

/-- Run a script; statements before one that fails have their effect. -/
def runScript (id : PoolId) (script : String) : Work Site Failure Unit := do
  let p ← (free id).report Fault.toFailure
  match p.target with
  | .server login link =>
    tell id login link ((Server.Call.plain login.driver script).report Fault.toFailure)
  | _ => Work.report Fault.toFailure do
    let before := (← Work.state).content p
    let (fault, after) := before.runScript script
    keepWritten id p before after
    match fault with
    | some f => Work.fail f
    | none => return ()

/-- Begin a transaction. -/
def start (id : PoolId) : Work Site Fault Unit := do
  let p ← free id
  match p.target with
  | .server login link => talk id link do
    Server.Call.settle login
    Server.Call.start login.driver
  | _ =>
    let db := (← Work.state).content p
    Work.change (changePool id fun p => { p with copy := some db })

/-- End a transaction: publish its copy, or tell the server so. -/
def commit (id : PoolId) : Work Site Fault Unit := do
  let p ← usable id
  match p.target, p.copy with
  | .server login link, _ => talk id link (Server.Call.finish login.driver "COMMIT")
  | _, some db => do
    Work.change (changePool id fun p => { p with copy := none })
    Work.change (keep id { p with copy := none } db)
  | _, none => return ()

/-- End a transaction and lose what it wrote. -/
def rollback (id : PoolId) : Work Site Fault Unit := do
  let p ← usable id
  match p.target with
  | .server login link => talk id link (Server.Call.finish login.driver "ROLLBACK")
  | _ => Work.change (changePool id fun p => { p with copy := none })

/-- Report a fault of a transaction. -/
def transactionFailure (doing : String) (f : Fault) : Failure :=
  .transaction ("Failed to " ++ doing ++ ": " ++ f.text)

/-- Transactions on a pool. -/
def transactions (id : PoolId) : Transactions Site PoolId where
  start := do
    (start id).report (transactionFailure "begin")
    return id
  commit tx := (commit tx).report (transactionFailure "commit")
  rollback tx := (rollback tx).report (transactionFailure "roll back")

/-- Catalog rows of the tables of a pool. -/
def tables (id : PoolId) (only : Option String) : Work Site Failure (List CatalogRow) := do
  let p ← (free id).report Fault.toFailure
  match p.target with
  | .server login link =>
    tell id login link ((Server.Call.tables login.driver only).report Fault.toFailure)
  | _ => return ((← Work.state).content p).catalog only

/-- Catalog rows of the routines of a pool; files have none. -/
def routines (id : PoolId) : Work Site Failure (List RoutineRow) := do
  let p ← (free id).report Fault.toFailure
  match p.target with
  | .server login link =>
    tell id login link ((Server.Call.routines login.driver).report Fault.toFailure)
  | _ => return []

/-- The databases outside. -/
def databases : Databases Site PoolId PoolId where
  toOpener := opener
  transactions := transactions
  pooled := runner free
  joined := runner usable
  tables := tables
  routines := routines

end SqlGateway.Site
