import SqlGateway.Query.Rejection
import SqlGateway.Json.Basic

/-! Failures: everything an operation of the gateway can report.

    A failure says what went wrong and, where there is one, what the operator can do about it. While
    it travels outwards it may be retagged once with the connection it concerns: as a failure to
    persist its record or to read its catalog. Retagging keeps the text of the cause.

        ExecutionFailed ──intoPersist id──▶ PersistFailed (id, text of the cause)                 -/

namespace SqlGateway

open Number (natText)

inductive Failure where
  | notFound (object id : String)
  | connectionFailed (message suggestion : String)
  /-- The limit in seconds is known where the caller set it. -/
  | timeout (operation : String) (limit : Option Nat)
  | introspectionFailed (message connection : String)
  | compileFailed (message : String)
  | dangerousBlocked (operation reason : String)
  | executionFailed (message : String) (state : Option String) (suggestion : String)
  | persistFailed (message connection : String)
  | transaction (message : String)
  | invalidInput (message : String)
  | internal (message : String)
  deriving DecidableEq, Repr

namespace Failure

/-- An unknown connection. -/
def connectionNotFound (id : String) : Failure := .notFound "Connection" id

/-- Name of the kind of a failure. -/
def kind : Failure → String
  | .notFound .. => "NotFound"
  | .connectionFailed .. => "ConnectionFailed"
  | .timeout .. => "Timeout"
  | .introspectionFailed .. => "IntrospectionFailed"
  | .compileFailed .. => "CompileFailed"
  | .dangerousBlocked .. => "DangerousOperationBlocked"
  | .executionFailed .. => "ExecutionFailed"
  | .persistFailed .. => "PersistFailed"
  | .transaction .. => "Transaction"
  | .invalidInput .. => "InvalidInput"
  | .internal .. => "Internal"

/-- What a timeout says about its limit. -/
def limitText : Option Nat → String
  | some seconds => "exceeded " ++ natText seconds ++ "s"
  | none => "timed out"

def message : Failure → String
  | .notFound object id => object ++ " not found: " ++ id
  | .connectionFailed message _ => "Connection failed: " ++ message
  | .timeout operation limit => "Timeout: " ++ operation ++ " " ++ limitText limit
  | .introspectionFailed message connection =>
    "Introspection failed on connection " ++ connection ++ ": " ++ message
  | .compileFailed message => "Query compilation failed: " ++ message
  | .dangerousBlocked operation reason =>
    "Dangerous operation blocked: " ++ operation ++ ". " ++ reason ++
      ". Set 'allowUnfiltered' to true to proceed."
  | .executionFailed message .. => "Execution failed: " ++ message
  | .persistFailed message connection =>
    "Persisting connection " ++ connection ++ " failed: " ++ message
  | .transaction message => "Transaction error: " ++ message
  | .invalidInput message => "Invalid input: " ++ message
  | .internal message => "Internal error: " ++ message

def suggestion : Failure → Option String
  | .connectionFailed _ s => some s
  | .executionFailed _ _ s => some s
  | .timeout .. => some "Consider increasing the timeout or narrowing the query"
  | _ => none

/-- State code of the server, if it gave one. -/
def state : Failure → Option String
  | .executionFailed _ code _ => code
  | _ => none

/-- May the same operation succeed if it is tried again? -/
def isRetryable : Failure → Bool
  | .connectionFailed .. | .timeout .. => true
  | _ => false

/-- Retag a failure met while the record of a connection is written. -/
def intoPersist (connection : String) : Failure → Failure
  | f@(.persistFailed ..) => f
  | f@(.notFound ..) => f
  | f => .persistFailed f.message connection

/-- Retag a failure met while the catalog of a connection is read. -/
def intoIntrospection (connection : String) : Failure → Failure
  | f@(.introspectionFailed ..) => f
  | f@(.connectionFailed ..) => f
  | f@(.timeout ..) => f
  | f => .introspectionFailed f.message connection

/-- Status of the response that reports a failure. -/
def status : Failure → Nat
  | .notFound .. => 404
  | .compileFailed .. | .dangerousBlocked .. | .invalidInput .. => 400
  | .executionFailed .. => 422
  | .connectionFailed .. => 502
  | .timeout .. => 504
  | .introspectionFailed .. | .persistFailed .. | .transaction .. | .internal .. => 500

/-- Body of the response that reports a failure. -/
def body (f : Failure) : Json :=
  let optional (name : String) (text : Option String) : List (String × Json) :=
    (text.map fun s => (name, Json.str s)).toList
  .obj ([("kind", .str f.kind), ("error", .str f.message)] ++
    optional "suggestion" f.suggestion ++ optional "sqlState" f.state)

/-- The failure of a query that has no statement. -/
def ofRejection : Rejection → Failure
  | .unfilteredWrite kind =>
    .dangerousBlocked (Rejection.unfilteredWrite kind).message (Rejection.consequence kind)
  | r => .compileFailed r.message

end Failure

end SqlGateway
