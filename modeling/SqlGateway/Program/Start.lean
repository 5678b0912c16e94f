import SqlGateway.Http.Service
import SqlGateway.Settings.CommandLine
import SqlGateway.Site.Databases
import SqlGateway.Store.Migration

/-! A run of the gateway: settings, metadata, registered connections, and then requests until it is
    told to stop. What keeps it from serving decides its exit code:

        command line                                         2, or 0 if it asks for help or version
        pool options, metadata, migration, records, port     1
        none, and it is told to stop                         0                                    -/

namespace SqlGateway

/-- Text of the script at a path, or the built-in one. -/
def Site.loadScript (path : Option String) : Work Site Failure String :=
  match path with
  | none => return Record.migration
  | some written => do
    match (← Work.state).files.readText written with
    | .ok text => return text
    | .error reason =>
      Work.fail (.invalidInput ("Failed to read migration '" ++ written ++ "': " ++ reason))

/-- Milliseconds of a number of seconds. -/
def millis (seconds : Nat) : Nat := 1000 * seconds

/-- What answers requests once the metadata are open. -/
def serviceOn (metadata : PoolId) (limitSeconds : Nat) : Http.Service Site PoolId PoolId where
  databases := Site.databases
  store := Store.ofPool Site.databases metadata
  limit := millis limitSeconds
  freshId := Site.freshId

namespace Program

/-- A gateway that serves. -/
structure Running where
  settings : Settings
  metadata : PoolId

/-- What answers its requests. -/
def Running.service (r : Running) : Http.Service Site PoolId PoolId :=
  serviceOn r.metadata r.settings.queryTimeout.toNat

/-- Open the metadata, migrate them and take over the records. -/
def bootstrap (settings : Settings) : Work (Gateway Site PoolId) Failure Running := do
  let metadata ← Gateway.outward (Site.connectUrl settings.metadataUrl)
  let script ← Gateway.outward (Site.loadScript settings.migration)
  Gateway.outward (Site.runScript metadata script)
  let running : Running := ⟨settings, metadata⟩
  let _ ← Gateway.load running.service.store Site.opener
  return running

/-- Start from a command line and an environment, or end with an exit code. -/
def start (args : List String) (environment : List (String × String)) (portIsFree : Bool) :
    Work (Gateway Site PoolId) Nat Running := do
  let settings ← (Work.ofExcept (Settings.read args environment)).report CommandLineStop.exitCode
  if settings.pool.defect?.isSome then Work.fail 1
  let running ← (bootstrap settings).report fun _ => 1
  if portIsFree then return running else Work.fail 1

/-- Stop: close every pool. The exit code says that all is well. -/
def Running.stop (r : Running) : Work (Gateway Site PoolId) Failure Nat := do
  Gateway.closeAll Site.opener
  Gateway.outward (Site.closePool r.metadata)
  return 0

end Program

end SqlGateway
