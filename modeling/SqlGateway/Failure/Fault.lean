import SqlGateway.Failure.Basic
import SqlGateway.Connection.Driver

/-! Faults: what a database or the way to it reports. `Fault.text` is a fault in full; `toFailure`
    sorts faults into failures of the gateway, each with advice of its own. A fault while a
    connection is being opened is always a failed connection, and the advice follows from words of
    the fault. -/

namespace SqlGateway

open Number (natText)

/-- A fault of a database connection. -/
inductive Fault where
  | configuration (text : String)
  /-- An answer of the server: its message, its code, and both as one text. -/
  | database (message : String) (code : Option String) (text : String)
  | io (text : String)
  | tls (text : String)
  | protocol (text : String)
  | rowNotFound
  | typeNotFound (name : String)
  | columnIndexOutOfBounds (index len : Nat)
  | columnNotFound (name : String)
  | columnDecode (index text : String)
  | encode (text : String)
  | decode (text : String)
  | poolTimedOut
  | poolClosed
  | workerCrashed
  /-- A transaction was begun, but the connection is in none. -/
  | beginFailed
  deriving DecidableEq, Repr

namespace Fault

def text : Fault → String
  | .configuration t => "error with configuration: " ++ t
  | .database _ _ t => "error returned from database: " ++ t
  | .io t => "error communicating with database: " ++ t
  | .tls t => "error occurred while attempting to establish a TLS connection: " ++ t
  | .protocol t => "encountered unexpected or invalid data: " ++ t
  | .rowNotFound => "no rows returned by a query that expected to return at least one row"
  | .typeNotFound t => "type named " ++ t ++ " not found"
  | .columnIndexOutOfBounds index len =>
    "column index out of bounds: the len is " ++ natText len ++ ", but the index is " ++
      natText index
  | .columnNotFound t => "no column found for name: " ++ t
  | .columnDecode index t => "error occurred while decoding column " ++ index ++ ": " ++ t
  | .encode t => "error occurred while encoding a value: " ++ t
  | .decode t => "error occurred while decoding: " ++ t
  | .poolTimedOut => "pool timed out while waiting for an open connection"
  | .poolClosed => "attempted to acquire a connection on a closed pool"
  | .workerCrashed => "attempted to communicate with a crashed background worker"
  | .beginFailed => "got unexpected connection status after attempting to begin transaction"

/-- The failure that a fault is to the caller. -/
def toFailure : Fault → Failure
  | .configuration t => .connectionFailed t "Check the connection settings and credentials"
  | .database message code _ =>
    .executionFailed message code "Check the referenced tables and columns"
  | .rowNotFound =>
    .executionFailed "No rows returned" none "Verify the filter values match existing data"
  | .poolTimedOut => .timeout "connection pool acquire" none
  | .poolClosed => .connectionFailed "Connection pool is closed" "Reconnect to the database"
  | .io t =>
    .connectionFailed ("I/O error: " ++ t) "Check network connectivity and database server status"
  | .tls t => .connectionFailed ("TLS error: " ++ t) "Verify TLS configuration and certificates"
  | .protocol t =>
    .connectionFailed ("Protocol error: " ++ t) "Check database server compatibility"
  | .columnNotFound t => .internal ("Column not found in row: " ++ t)
  | .columnDecode index t => .internal ("Failed to decode column " ++ index ++ ": " ++ t)
  | .decode t => .internal ("Decode error: " ++ t)
  | .workerCrashed => .internal "Database worker crashed"
  | f => .internal ("Unknown database error: " ++ f.text)

/-- What to check when a connection cannot be opened. -/
def openingAdvice (driver : Driver) (f : Fault) : String :=
  let words := Text.fold f.text
  let mentions (phrase : String) : Bool := Text.contains words phrase
  if mentions "connection refused" then
    "Check that the " ++ driver.displayName ++ " server is running and accessible"
  else if mentions "authentication" || mentions "password" then
    "Verify the database user and password"
  else if mentions "does not exist" || mentions "unknown database" then
    "Check that the database name exists"
  else if mentions "tls" || mentions "ssl" then "Check TLS/SSL configuration or try disabling it"
  else match driver with
    | .postgres => "Verify host, port (default 5432), user and database name"
    | .mysql => "Verify host, port (default 3306), user and database name"
    | .sqlite => "Verify the database file path exists and its directory is writable"

/-- The failure of a connection that cannot be opened. -/
def toOpeningFailure (driver : Driver) (f : Fault) : Failure :=
  .connectionFailed ("Failed to connect: " ++ f.text) (openingAdvice driver f)

end Fault

end SqlGateway
