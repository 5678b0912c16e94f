import SqlGateway.Connection.Driver
import SqlGateway.Json.Decode

/-! Options of connection pools. Every option may be left open; what the pool then gets depends on
    the kind of database only for the largest number of connections, which is one for a file.

    A combination is valid if each given number is possible on its own and the least number of
    connections does not exceed the largest one where both are given. -/

namespace SqlGateway

open Number (natText)

/-- What was asked of the pools. -/
structure PoolOptions where
  maxConnections : Option UInt32 := none
  minConnections : Option UInt32 := none
  idleTimeout : Option UInt64 := none
  acquireTimeout : Option UInt64 := none
  testBeforeAcquire : Option Bool := none
  deriving DecidableEq, Repr

/-- What a pool is opened with: nothing is left open. Times are in seconds. -/
structure PoolSetup where
  minConnections : UInt32
  maxConnections : UInt32
  acquireTimeout : UInt64
  idleTimeout : UInt64
  testBeforeAcquire : Bool
  deriving DecidableEq, Repr

/-- Why options cannot be used. -/
inductive PoolDefect where
  | noConnections
  | minAboveMax (min max : UInt32)
  | noAcquireTime
  deriving DecidableEq, Repr

def PoolDefect.message : PoolDefect → String
  | .noConnections => "max_connections must be greater than 0"
  | .minAboveMax min max =>
    "min_connections (" ++ natText min.toNat ++ ") cannot exceed max_connections (" ++
      natText max.toNat ++ ")"
  | .noAcquireTime => "acquire_timeout must be greater than 0"

namespace PoolOptions

def defaultMaxNetwork : UInt32 := 10

def defaultMaxFile : UInt32 := 1

/-- Most connections of a pool, of a file or of a server. -/
def effectiveMax (o : PoolOptions) (isFile : Bool) : UInt32 :=
  o.maxConnections.getD (if isFile then defaultMaxFile else defaultMaxNetwork)

/-- Connections that a pool keeps open. -/
def effectiveMin (o : PoolOptions) : UInt32 := o.minConnections.getD 1

/-- Seconds after which an unused connection is closed. -/
def effectiveIdle (o : PoolOptions) : UInt64 := o.idleTimeout.getD 600

/-- Seconds to wait for a connection. -/
def effectiveAcquire (o : PoolOptions) : UInt64 := o.acquireTimeout.getD 30

/-- Is a connection tried out before it is handed over? -/
def effectiveTest (o : PoolOptions) : Bool := o.testBeforeAcquire.getD true

/-- What a pool to a database of some kind is opened with. -/
def setup (o : PoolOptions) (d : Driver) : PoolSetup where
  minConnections := o.effectiveMin
  maxConnections := o.effectiveMax (d = .sqlite)
  acquireTimeout := o.effectiveAcquire
  idleTimeout := o.effectiveIdle
  testBeforeAcquire := o.effectiveTest

/-- The first defect of the options, if there is one. -/
def defect? (o : PoolOptions) : Option PoolDefect :=
  if o.maxConnections = some 0 then some .noConnections
  else
    match o.minConnections, o.maxConnections with
    | some min, some max =>
      if max < min then some (.minAboveMax min max)
      else if o.acquireTimeout = some 0 then some .noAcquireTime else none
    | _, _ => if o.acquireTimeout = some 0 then some .noAcquireTime else none

private def word {α : Type} (f : α → Nat) (o : Option α) : Json :=
  (o.map fun n => Json.int (f n)).getD .null

def toJson (o : PoolOptions) : Json :=
  .obj [("max_connections", word UInt32.toNat o.maxConnections),
    ("min_connections", word UInt32.toNat o.minConnections),
    ("idle_timeout_secs", word UInt64.toNat o.idleTimeout),
    ("acquire_timeout_secs", word UInt64.toNat o.acquireTimeout),
    ("test_before_acquire", (o.testBeforeAcquire.map Json.bool).getD .null)]

private structure Draft where
  maxConnections : Option (Option Nat) := none
  minConnections : Option (Option Nat) := none
  idleTimeout : Option (Option Nat) := none
  acquireTimeout : Option (Option Nat) := none
  testBeforeAcquire : Option (Option Bool) := none

/-- Every option may be missing in an object; an array holds all five. -/
def decoder : Json.Decoder PoolOptions :=
  Json.record
    [⟨"max_connections", false, fun d => d.maxConnections.isSome,
      fun d => (Json.optional (Json.natural 32)).map fun n => { d with maxConnections := some n }⟩,
     ⟨"min_connections", false, fun d => d.minConnections.isSome,
      fun d => (Json.optional (Json.natural 32)).map fun n => { d with minConnections := some n }⟩,
     ⟨"idle_timeout_secs", false, fun d => d.idleTimeout.isSome,
      fun d => (Json.optional (Json.natural 64)).map fun n => { d with idleTimeout := some n }⟩,
     ⟨"acquire_timeout_secs", false, fun d => d.acquireTimeout.isSome,
      fun d => (Json.optional (Json.natural 64)).map fun n => { d with acquireTimeout := some n }⟩,
     ⟨"test_before_acquire", false, fun d => d.testBeforeAcquire.isSome,
      fun d => (Json.optional Json.boolean).map fun b => { d with testBeforeAcquire := some b }⟩]
    ({} : Draft)
    fun d => some ⟨d.maxConnections.join.map Nat.toUInt32, d.minConnections.join.map Nat.toUInt32,
      d.idleTimeout.join.map Nat.toUInt64, d.acquireTimeout.join.map Nat.toUInt64,
      d.testBeforeAcquire.join⟩

/-- The options of a JSON text. -/
def ofText (s : String) : Except Json.Defect PoolOptions := Json.decode decoder s

end PoolOptions

end SqlGateway
