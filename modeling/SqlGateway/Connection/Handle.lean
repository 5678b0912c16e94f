import SqlGateway.Connection.Opener

/-! Handles: a connection as the gateway holds it, with the pool while it is open.

    The pool of a handle is always one that was opened for the details it has now. A pool that
    arrives late finds out by looking again:

        the handle has        the pool was opened for        what happens to it
        a pool                -                              superseded
        none, same details    the details it has             kept
        none, others          details it no longer has       outdated                             -/

namespace SqlGateway

/-- A connection with its pool. -/
structure Handle (P : Type) where
  id : String
  info : ConnectionInfo
  pool : Option P := none
  deriving DecidableEq, Repr

/-- What becomes of a fresh pool. -/
inductive Arrival (P : Type) where
  | kept
  | superseded (existing : P)
  | outdated
  deriving DecidableEq, Repr

namespace Handle

variable {P : Type}

def isOpen (h : Handle P) : Bool := h.pool.isSome

def summary (h : Handle P) : ConnectionSummary := ⟨h.id, h.info⟩

/-- Show the handle a pool that was opened for the given details. -/
def arrive (h : Handle P) (info : ConnectionInfo) (pool : P) : Arrival P × Handle P :=
  match h.pool with
  | some existing => (.superseded existing, h)
  | none => if h.info = info then (.kept, { h with pool := some pool }) else (.outdated, h)

/-- Put new details and a pool opened for them in the place of the old ones. -/
def install (h : Handle P) (info : ConnectionInfo) (pool : P) : Handle P :=
  { h with info, pool := some pool }

/-- Let go of the pool. -/
def release (h : Handle P) : Handle P := { h with pool := none }

end Handle

/-- One handle and everything outside the gateway. -/
structure Focus (σ P : Type) where
  outside : σ
  handle : Handle P

namespace Focus

variable {σ P ε α : Type}

/-- Work outside. -/
def outward (w : Work σ ε α) : Work (Focus σ P) ε α :=
  w.within Focus.outside fun s f => { f with outside := s }

/-- Change the handle. -/
def changeHandle (g : Handle P → Handle P) : Work (Focus σ P) ε Unit :=
  Work.change fun f => { f with handle := g f.handle }

/-- The handle. -/
def handleNow : Work (Focus σ P) ε (Handle P) := do return (← Work.state).handle

/-- Close a pool that the handle no longer has. -/
def retire (opener : Opener σ P) (old : Option P) : Work (Focus σ P) ε Unit :=
  match old with
  | some pool => outward (opener.close pool).surely
  | none => return ()

/-- The pool of the handle, opened if there is none. Nobody else is at work on the handle, so a
    fresh pool is kept. -/
def ensureOpen (opener : Opener σ P) : Work (Focus σ P) Failure P := do
  let h ← handleNow
  match h.pool with
  | some pool => return pool
  | none =>
    let pool ← outward (opener.connect h.info)
    changeHandle fun h' => (h'.arrive h.info pool).2
    return pool

/-- Install new details with a pool opened for them, and close the pool before. -/
def install (opener : Opener σ P) (info : ConnectionInfo) (pool : P) : Work (Focus σ P) ε Unit := do
  let old := (← handleNow).pool
  changeHandle fun h => h.install info pool
  retire opener old

/-- Open a pool for new details and install both. If that fails the handle is as before. -/
def reconfigure (opener : Opener σ P) (info : ConnectionInfo) : Work (Focus σ P) Failure Unit := do
  let pool ← outward (opener.connect info)
  install opener info pool

/-- Close the pool, if there is one. -/
def close (opener : Opener σ P) : Work (Focus σ P) ε Unit := do
  let old := (← handleNow).pool
  changeHandle Handle.release
  retire opener old

end Focus

end SqlGateway
