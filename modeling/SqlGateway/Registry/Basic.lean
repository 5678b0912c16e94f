import SqlGateway.Settings.Pool
import SqlGateway.Store.Basic

/-! The registry: every registered connection has one handle here and one record in the store.

        add      open ▶ insert the record ▶ publish the handle
        edit     in one transaction: update the record, open ▶ commit ▶ install
        remove   delete the record ▶ close ▶ forget the handle

    Whatever fails, the registry and the store agree afterwards: what comes before the failure is
    undone, what comes after it never happens. Connections that cannot be opened when the registry
    is loaded are listed all the same and opened when they are first used. -/

namespace SqlGateway

/-- The registry with everything outside the gateway. -/
structure Gateway (σ P : Type) where
  outside : σ
  /-- No two handles have the same identifier; their order means nothing. -/
  handles : List (Handle P) := []

/-- Put a handle among others, in the place of the one with its identifier. -/
def publish {P : Type} (h : Handle P) (handles : List (Handle P)) : List (Handle P) :=
  h :: handles.filter fun old => old.id != h.id

namespace Gateway

variable {σ P T ε α : Type}

def handle? (g : Gateway σ P) (id : String) : Option (Handle P) := g.handles.find? (·.id == id)

/-- Work outside. -/
def outward (w : Work σ ε α) : Work (Gateway σ P) ε α :=
  w.within Gateway.outside fun s g => { g with outside := s }

/-- The handle of an identifier. -/
def find (id : String) : Work (Gateway σ P) Failure (Handle P) := do
  match (← Work.state).handle? id with
  | some h => return h
  | none => Work.fail (.connectionNotFound id)

/-- Work on a handle that was found. -/
def onHandle (h : Handle P) (w : Work (Focus σ P) ε α) : Work (Gateway σ P) ε α :=
  w.within (fun g => ⟨g.outside, h⟩) fun f g =>
    { outside := f.outside
      handles := g.handles.map fun old => if old.id = h.id then f.handle else old }

/-- Work on the handle of an identifier. -/
def focus (id : String) (w : Work (Focus σ P) Failure α) : Work (Gateway σ P) Failure α := do
  onHandle (← find id) w

/-- The order of a listing: by name, then by identifier. -/
def listedBefore (a b : ConnectionSummary) : Bool :=
  a.info.name < b.info.name || (a.info.name == b.info.name && a.id ≤ b.id)

/-- Every registered connection. -/
def summaries (g : Gateway σ P) : List ConnectionSummary :=
  (g.handles.map Handle.summary).mergeSort listedBefore

/-- The handle of a record, open if that is possible. -/
def restore (opener : Opener σ P) (record : String × ConnectionInfo) :
    Work σ Failure (Handle P) := do
  let (id, info) := record
  match ← ((opener.connect info).attempt : Work σ Failure _) with
  | .ok pool => return ⟨id, info, some pool⟩
  | .error _ => return ⟨id, info, none⟩

/-- Take over every record of the store and count the connections. -/
def load (store : Store σ T) (opener : Opener σ P) : Work (Gateway σ P) Failure Nat := do
  let restored ← outward do (← store.list).mapM (restore opener)
  let loaded := restored.foldl (fun hs h => publish h hs) []
  Work.change fun g => { g with handles := loaded.foldl (fun hs h => publish h hs) g.handles }
  return loaded.length

/-- Register a connection under a fresh identifier. -/
def add (store : Store σ T) (opener : Opener σ P) (id : String) (info : ConnectionInfo) :
    Work (Gateway σ P) Failure Unit := do
  let pool ← outward (opener.connect info)
  match ← (outward (store.insert none id info)).attempt with
  | .ok _ => Work.change fun g => { g with handles := publish ⟨id, info, some pool⟩ g.handles }
  | .error f =>
    outward (opener.close pool).surely
    Work.fail (f.intoPersist id)

/-- Replace the details of a registered connection. -/
def edit (store : Store σ T) (opener : Opener σ P) (id : String) (info : ConnectionInfo) :
    Work (Gateway σ P) Failure Unit := do
  let h ← find id
  let pool ← outward (store.readCommitted none fun tx => do
    store.update (some tx) id info
    opener.connect info)
  onHandle h (Focus.install opener info pool)

/-- Unregister a connection. -/
def remove (store : Store σ T) (opener : Opener σ P) (id : String) :
    Work (Gateway σ P) Failure Unit := do
  let h ← find id
  outward (store.delete none id)
  onHandle h (Focus.close opener)
  Work.change fun g => { g with handles := g.handles.filter fun old => old.id != id }

/-- Close every pool. The connections stay registered. -/
def closeAll (opener : Opener σ P) : Work (Gateway σ P) Failure Unit := do
  (← Work.state).handles.forM fun h => onHandle h (Focus.close opener)

end Gateway

/-- How a record shows an option: in full if there is one. -/
def optionalText {α : Type} (text : α → String) : Option α → String
  | some x => "Some(" ++ text x ++ ")"
  | none => "None"

/-- Text of pool options as a record. -/
def PoolOptions.structuralText (o : PoolOptions) : String :=
  let word32 := optionalText fun (n : UInt32) => Number.natText n.toNat
  let word64 := optionalText fun (n : UInt64) => Number.natText n.toNat
  "PoolOptions \x7b max_connections: " ++ word32 o.maxConnections ++
    ", min_connections: " ++ word32 o.minConnections ++
    ", idle_timeout_secs: " ++ word64 o.idleTimeout ++
    ", acquire_timeout_secs: " ++ word64 o.acquireTimeout ++
    ", test_before_acquire: " ++
    optionalText (fun b => if b then "true" else "false") o.testBeforeAcquire ++
    " \x7d"

/-- Text of a registry as a record: its options and nothing of its connections. -/
def registryText (o : PoolOptions) : String :=
  "ConnectionRegistry \x7b pool_options: " ++ o.structuralText ++ ", .. \x7d"

end SqlGateway
