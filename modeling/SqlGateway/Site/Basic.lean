import SqlGateway.Connection.Address
import SqlGateway.Connection.Opener
import SqlGateway.Engine.Script
import SqlGateway.Server.Conversation
import SqlGateway.Site.Files
import SqlGateway.Uuid

/-! What lies outside the gateway: files, a server, and the pools that are open to them. A pool is
    known by its number and has one connection.

        a file      what is written stays in the file
        memory      what is written is gone with the pool
        a server    what is written is told to the server

    A transaction on a file works on a copy of its tables, which becomes the file at the commit. -/

namespace SqlGateway

/-- What a pool leads to. -/
inductive Target where
  | file (path : Site.Path)
  | memory (content : Engine.Database)
  | server (login : Server.Login) (link : Server.Link)
  deriving Repr

/-- A pool of one connection. -/
structure Pool where
  target : Target
  isReadOnly : Bool := false
  isClosed : Bool := false
  /-- The copy that an open transaction works on. -/
  copy : Option Engine.Database := none
  deriving Repr

/-- Everything outside. -/
structure Site where
  files : Site.Files := {}
  /-- Names under which the server is reached. -/
  hosts : List String := []
  peer : Server.Peer := {}
  pools : List Pool := []
  /-- How many identifiers have been made. -/
  issued : Nat := 0
  deriving Repr

/-- A pool as the gateway holds it: its number and the kind of database it leads to. -/
structure PoolId where
  number : Nat
  driver : Driver
  deriving DecidableEq, Repr

def Pool.driver (p : Pool) : Driver :=
  match p.target with
  | .server login _ => login.driver
  | _ => .sqlite

namespace Site

def pool? (s : Site) (id : PoolId) : Option Pool := s.pools[id.number]?

/-- Is the pool closed? -/
def isClosed (s : Site) (id : PoolId) : Bool := ((s.pool? id).map Pool.isClosed).getD true

/-- Change a pool. -/
def changePool (id : PoolId) (f : Pool → Pool) (s : Site) : Site :=
  { s with pools := s.pools.modify id.number f }

/-- Take a pool in. -/
def enter {ε : Type} (p : Pool) : Work Site ε PoolId := do
  let number := (← Work.state).pools.length
  Work.change fun s => { s with pools := s.pools ++ [p] }
  return ⟨number, p.driver⟩

/-- The pool of a number, if it can be used. -/
def usable (id : PoolId) : Work Site Fault Pool := do
  match (← Work.state).pool? id with
  | some p => if p.isClosed then Work.fail .poolClosed else return p
  | none => Work.fail .poolClosed

/-- The tables that a pool of a file or of memory shows. -/
def content (s : Site) (p : Pool) : Engine.Database :=
  match p.copy, p.target with
  | some db, _ => db
  | none, .file path => s.files.database path
  | none, .memory db => db
  | none, .server .. => {}

/-- Store what a pool has written: in the copy of its transaction, or for good. -/
def keep (id : PoolId) (p : Pool) (db : Engine.Database) (s : Site) : Site :=
  match p.copy, p.target with
  | some _, _ => s.changePool id fun p => { p with copy := some db }
  | none, .file path => { s with files := s.files.put path (.database db) }
  | none, .memory _ => s.changePool id fun p => { p with target := .memory db }
  | none, .server .. => s

/-- Talk to the server over the connection of a pool. -/
def talk {ε α : Type} (id : PoolId) (link : Server.Link) (w : Work Server.Call ε α) :
    Work Site ε α :=
  w.within (fun s => ⟨s.peer, link⟩) fun c s =>
    Site.changePool id (fun p => { p with target := match p.target with
      | .server login _ => .server login c.link
      | other => other }) { s with peer := c.peer }

/-- What is met where no server listens. -/
def unreachable (driver : Driver) (host : String) : Fault :=
  if driver = .mysql ∧ host.contains '\x00' then .io "file name contained an unexpected NUL byte"
  else .io "No such file or directory (os error 2)"

/-- Open a pool to a server. -/
def connectServer (host : String) (login : Server.Login) : Work Site Fault PoolId := do
  if !(← Work.state).hosts.contains host then Work.fail (unreachable login.driver host)
  let link ← (do
      Server.Call.login login
      return (← Work.state).link : Work Server.Call Fault Server.Link).within
    (fun s => ⟨s.peer, {}⟩) fun c s => { s with peer := c.peer }
  enter { target := .server login link }

/-- Open a pool to a file. -/
def connectFile (path : String) (creates isReadOnly : Bool) : Work Site Fault PoolId := do
  if path.contains '\x00' then
    Work.fail (.io "filename passed to SQLite must not contain nul bytes")
  let (steps, files) ← Work.ofExcept ((← Work.state).files.openDatabase path creates)
  Work.change fun s => { s with files }
  enter { target := .file steps, isReadOnly }

/-- Open a pool to an address. Transactions of a pool to a MySQL server take the level of its
    session. -/
def connectTo : Address → Work Site Fault PoolId
  | .memory => enter { target := .memory {} }
  | .file path creates isReadOnly => connectFile path creates isReadOnly
  | .server driver host user password database =>
    connectServer host { driver, user, password, database, setsLevel := driver = .mysql }

/-- Open a pool for registered details. -/
def connectInfo (i : ConnectionInfo) : Work Site Fault PoolId :=
  match i.driver with
  | .sqlite =>
    if Address.isMemoryName i.database then enter { target := .memory {} }
    else connectFile i.database true false
  | driver =>
    connectServer i.host { driver, user := i.user, password := i.password, database := i.database }

/-- Open a pool to a written address. -/
def connectUrl (url : String) : Work Site Failure PoolId :=
  match Driver.ofUrl? url with
  | none =>
    Work.fail (.invalidInput "Unsupported URL scheme. Use postgres://, mysql:// or sqlite:")
  | some driver =>
    (do connectTo (← Work.ofExcept (Address.ofText driver url))).report
      (Fault.toOpeningFailure driver)

/-- Close a pool. A transaction that is still open is lost. -/
def closePool {ε : Type} (id : PoolId) : Work Site ε Unit :=
  Work.change (Site.changePool id fun p => { p with isClosed := true, copy := none })

/-- Open and close pools for registered details. -/
def opener : Opener Site PoolId where
  connect i := (connectInfo i).report (Fault.toOpeningFailure i.driver)
  close := closePool

/-- An identifier that was not made before. -/
def freshId {ε : Type} : Work Site ε String := do
  let n := (← Work.state).issued
  Work.change fun s => { s with issued := n + 1 }
  return (Uuid.numbered n).text

end Site

end SqlGateway
