import SqlGateway.Server.Script
import SqlGateway.Work.Basic

/-! Talking to a server over one connection.

        login        connect, and for pools with a level of their own the level
        plain        a statement as text
        prepare      once per connection and text; later uses keep the types found first
        execute      a prepared statement
        transaction  BEGIN, for PostgreSQL the level, then COMMIT or ROLLBACK

    A transaction that could not be ended is rolled back before the connection is used again; if
    that fails too, a new connection takes its place. -/

namespace SqlGateway.Server

/-- A server and the connection to it. -/
structure Call where
  peer : Peer
  link : Link := {}
  deriving Repr

/-- Who connects, and whether the connection sets the level of its transactions. -/
structure Login where
  driver : Driver
  user : String
  password : String
  database : String
  setsLevel : Bool := false
  deriving DecidableEq, Repr

/-- The level of every transaction. -/
def levelStatement : String := "SET TRANSACTION ISOLATION LEVEL READ COMMITTED"

/-- The same level for all transactions of a connection. -/
def sessionLevelStatement : String := "SET SESSION TRANSACTION ISOLATION LEVEL READ COMMITTED"

namespace Call

/-- Tell the server something. -/
def say (m : Message) : Work Call Fault Unit :=
  Work.change fun c => { c with peer := { c.peer with heard := c.peer.heard ++ [m] } }

/-- Send a statement as text. -/
def plain (driver : Driver) (sql : String) : Work Call Fault Unit := do
  say (.query sql)
  match (← Work.state).peer.script.failing.lookup sql with
  | some complaint => Work.fail (complaint.toFault driver)
  | none => return ()

/-- Connect anew. -/
def login (who : Login) : Work Call Fault Unit := do
  Work.change fun c => { c with link := {} }
  say (.connect who.user who.database who.password)
  match (← Work.state).peer.script.refusal with
  | some complaint => Work.fail (complaint.toFault who.driver)
  | none =>
    if who.setsLevel then (plain who.driver sessionLevelStatement).report fun _ => .poolTimedOut

/-- Remember that a rollback is owed. -/
def oweRollback : Work Call Fault Unit :=
  Work.change fun c => { c with link := { c.link with owesRollback := true } }

/-- Make the connection fit for use. -/
def settle (who : Login) : Work Call Fault Unit := do
  if (← Work.state).link.owesRollback then
    match ← (plain who.driver "ROLLBACK").attempt with
    | .ok _ => Work.change fun c => { c with link := { c.link with owesRollback := false } }
    | .error _ => login who

/-- The reply that the next execution takes. -/
def nextReply (c : Call) : Reply := c.peer.script.replies.headD {}

/-- Take the next reply away. -/
def dropReply : Work Call Fault Unit :=
  Work.change fun c =>
    let script := { c.peer.script with replies := c.peer.script.replies.drop 1 }
    { c with peer := { c.peer with script } }

/-- Prepare a statement with declared parameter types and learn the types of its parameters. -/
def prepare (driver : Driver) (sql : String) (declared : List Nat) :
    Work Call Fault (List String) := do
  let c ← Work.state
  match c.link.prepared.lookup sql with
  | some types => return types
  | none =>
    say (.prepare sql declared)
    match c.nextReply.refusal with
    | some complaint =>
      dropReply
      Work.fail (complaint.toFault driver)
    | none =>
      let types := (List.range declared.length).map fun i => c.nextReply.parameters[i]?.getD "TEXT"
      Work.change fun c =>
        { c with link := { c.link with prepared := (sql, types) :: c.link.prepared } }
      return types

/-- Execute a prepared statement and take the reply, complaint or not. -/
def stream (sql : String) (arguments : List Argument) : Work Call Fault Reply := do
  say (.execute sql arguments)
  let reply := (← Work.state).nextReply
  dropReply
  if reply.isWithheld then Work.stall else return reply

/-- A reply fails as a whole if the server complains at its end. -/
def complete (driver : Driver) (reply : Reply) : Work Call Fault Reply :=
  match reply.complaint with
  | some complaint => Work.fail (complaint.toFault driver)
  | none => return reply

/-- Execute a prepared statement. -/
def execute (driver : Driver) (sql : String) (arguments : List Argument) :
    Work Call Fault Reply := do
  complete driver (← stream sql arguments)

/-- Begin a transaction. -/
def start (driver : Driver) : Work Call Fault Unit := do
  plain driver "BEGIN"
  if (← Work.state).peer.script.startsNone then Work.fail .beginFailed
  if driver = .postgres then
    match ← (plain driver levelStatement).attempt with
    | .ok _ => return ()
    | .error e =>
      oweRollback
      Work.fail e

/-- End a transaction by a statement; one that fails leaves a rollback owed. -/
def finish (driver : Driver) (sql : String) : Work Call Fault Unit := do
  match ← (plain driver sql).attempt with
  | .ok _ => return ()
  | .error e =>
    oweRollback
    Work.fail e

end Call

end SqlGateway.Server
