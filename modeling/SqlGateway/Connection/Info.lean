import SqlGateway.Connection.Driver
import SqlGateway.Json.Decode
import SqlGateway.Text.Quoted

/-! What it takes to open a registered connection.

    For a database file, the database name is its path and the network fields are ignored. The
    password is read from documents but never written: neither into a document, nor into a listing,
    nor into the text of a record. -/

namespace SqlGateway

open Number (natText)

/-- How to reach a database. -/
structure ConnectionInfo where
  name : String
  driver : Driver
  host : String
  port : UInt16
  user : String
  password : String
  database : String
  deriving DecidableEq, Repr

namespace ConnectionInfo

/-- A database file. -/
def file (name path : String) : ConnectionInfo := ⟨name, .sqlite, "", 0, "", "", path⟩

/-- Port to dial: the usual one where none is set. -/
def effectivePort (i : ConnectionInfo) : UInt16 :=
  if i.port = 0 then i.driver.defaultPort.getD 0 else i.port

/-- Where the connection leads, without credentials. -/
def endpoint (i : ConnectionInfo) : String :=
  match i.driver with
  | .sqlite => "sqlite:" ++ i.database
  | driver =>
    driver.name ++ "://" ++ i.user ++ "@" ++ i.host ++ ":" ++ natText i.effectivePort.toNat ++
      "/" ++ i.database

/-- Text of the record with the password masked. -/
def structuralText (i : ConnectionInfo) : String :=
  "ConnectionInfo \x7b name: " ++ Text.quoted i.name ++ ", driver: " ++ i.driver.displayName ++
    ", host: " ++ Text.quoted i.host ++ ", port: " ++ natText i.port.toNat ++
    ", user: " ++ Text.quoted i.user ++ ", password: " ++ Text.quoted "****" ++
    ", database_name: " ++ Text.quoted i.database ++ " \x7d"

/-- Fields of the document of a connection. -/
def fields (i : ConnectionInfo) : List (String × Json) :=
  [("name", .str i.name), ("driver", .str i.driver.name), ("host", .str i.host),
    ("port", .int i.port.toNat), ("dbUser", .str i.user), ("dbName", .str i.database)]

def toJson (i : ConnectionInfo) : Json := .obj i.fields

private structure Draft where
  name : Option String := none
  driver : Option Driver := none
  host : Option String := none
  port : Option Nat := none
  user : Option String := none
  password : Option String := none
  database : Option String := none

def decoder : Json.Decoder ConnectionInfo :=
  Json.record
    [⟨"name", false, fun d => d.name.isSome,
      fun d => Json.string.map fun s => { d with name := some s }⟩,
     ⟨"driver", false, fun d => d.driver.isSome,
      fun d => (Json.name Driver.names).map fun k => { d with driver := some k }⟩,
     ⟨"host", true, fun d => d.host.isSome,
      fun d => Json.string.map fun s => { d with host := some s }⟩,
     ⟨"port", true, fun d => d.port.isSome,
      fun d => (Json.natural 16).map fun n => { d with port := some n }⟩,
     ⟨"dbUser", true, fun d => d.user.isSome,
      fun d => Json.string.map fun s => { d with user := some s }⟩,
     ⟨"password", true, fun d => d.password.isSome,
      fun d => Json.string.map fun s => { d with password := some s }⟩,
     ⟨"dbName", false, fun d => d.database.isSome,
      fun d => Json.string.map fun s => { d with database := some s }⟩]
    ({} : Draft)
    fun d => do
      return ⟨← d.name, ← d.driver, d.host.getD "", (d.port.getD 0).toUInt16, d.user.getD "",
        d.password.getD "", ← d.database⟩

/-- The connection of a JSON text. -/
def ofText (s : String) : Except Json.Defect ConnectionInfo := Json.decode decoder s

end ConnectionInfo

/-- A registered connection as a listing shows it. -/
structure ConnectionSummary where
  id : String
  info : ConnectionInfo
  deriving DecidableEq, Repr

def ConnectionSummary.toJson (s : ConnectionSummary) : Json :=
  .obj (("id", .str s.id) :: s.info.fields)

end SqlGateway
