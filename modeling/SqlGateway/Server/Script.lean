import SqlGateway.Failure.Fault

/-! A database server as the gateway sees it: what it is told and what it answers.

    Its answers are given in advance. A statement takes the next reply when it is executed; when it
    is prepared it is checked against the same reply, which stays in its place unless it refuses the
    statement. Where no reply is left, a statement gets an empty one. -/

namespace SqlGateway.Server

/-- What a server complains about. -/
structure Complaint where
  code : Option String
  message : String
  number : Nat := 0
  deriving DecidableEq, Repr

/-- A complaint as a fault; MySQL servers put a number and the code in front of the message. -/
def Complaint.toFault (driver : Driver) (c : Complaint) : Fault :=
  .database c.message c.code <|
    match driver, c.code with
    | .mysql, some code => Number.natText c.number ++ " (" ++ code ++ "): " ++ c.message
    | .mysql, none => Number.natText c.number ++ ": " ++ c.message
    | _, _ => c.message

/-- The answer to one statement. -/
structure Reply where
  /-- Labels and type names of the columns. -/
  columns : List (String × String) := []
  /-- Cells in the binary form of their types, if they hold anything. -/
  rows : List (List (Option (List UInt8))) := []
  affected : Option Nat := none
  /-- Type names of the parameters, as far as they are not texts. -/
  parameters : List String := []
  /-- What goes wrong while the statement is executed. -/
  complaint : Option Complaint := none
  /-- What is wrong with the statement itself. -/
  refusal : Option Complaint := none
  /-- Is the answer withheld? -/
  isWithheld : Bool := false
  deriving DecidableEq, Repr

/-- How a server behaves. -/
structure Script where
  replies : List Reply := []
  /-- Statements sent as plain text that fail. -/
  failing : List (String × Complaint) := []
  /-- Does a transaction fail to start although its beginning succeeds? -/
  startsNone : Bool := false
  /-- What a login meets with. -/
  refusal : Option Complaint := none
  deriving DecidableEq, Repr

/-- A parameter of an executed statement: its type and its binary form, or nothing. -/
structure Argument where
  typeName : String
  bytes : Option (List UInt8)
  deriving DecidableEq, Repr

/-- What a server is told. -/
inductive Message where
  | connect (user database password : String)
  | query (sql : String)
  /-- A statement with the numbers of its parameter types, zero where the server is to choose. -/
  | prepare (sql : String) (types : List Nat)
  | execute (sql : String) (arguments : List Argument)
  deriving DecidableEq, Repr

/-- A server: how it behaves and what it has been told so far. -/
structure Peer where
  script : Script := {}
  heard : List Message := []
  deriving DecidableEq, Repr

/-- What the gateway knows of a connection to a server: the statements prepared on it with the types
    of their parameters, and whether a transaction that ended badly still has to be rolled back. -/
structure Link where
  prepared : List (String × List String) := []
  owesRollback : Bool := false
  deriving DecidableEq, Repr

end SqlGateway.Server
