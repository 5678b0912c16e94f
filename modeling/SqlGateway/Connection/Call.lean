import SqlGateway.Connection.Handle

/-! Several callers at work on one handle. Each goes from one point where others may come in between
    to the next:

        asks ──▶ waits ──▶ looks ──▶ opens ──▶ brings ──▶ ended    the pool, opened if there is none
                   ▲                             │
                   └────────── discards ◀────────┘
        replaces ──▶ installs ──▶ retires ──▶ ended                new details
        releases ──▶ retires ──▶ ended                             no pool

    Only one caller at a time has the turn to open: from `looks` until it has shown its pool and
    closed it if it is not kept. The details are read while it has the turn. A caller may be given
    up at any of these points; it lets go of all it holds, and of the turn. -/

namespace SqlGateway

/-- Where a caller stands. -/
inductive Call (P : Type) where
  | asks
  | waits
  | looks
  | opens (info : ConnectionInfo)
  | brings (info : ConnectionInfo) (pool : P)
  | discards (pool : P) (existing : Option P)
  | replaces (info : ConnectionInfo)
  | installs (info : ConnectionInfo) (pool : P)
  | releases
  | retires (pool : P)
  | ended (result : Except Failure (Option P))

/-- What the callers share: the handle, whether the turn is taken, and all that is outside. -/
structure Desk (σ P : Type) where
  outside : σ
  handle : Handle P
  isTaken : Bool := false

namespace Desk

variable {σ P ε α : Type}

/-- Work outside. -/
def outward (w : Work σ ε α) : Work (Desk σ P) ε α :=
  w.within Desk.outside fun s d => { d with outside := s }

/-- Give the turn back. -/
def yield : Work (Desk σ P) ε Unit := Work.change fun d => { d with isTaken := false }

/-- Change the handle. -/
def changeHandle (g : Handle P → Handle P) : Work (Desk σ P) ε Unit :=
  Work.change fun d => { d with handle := g d.handle }

end Desk

namespace Call

variable {σ P : Type}

/-- A caller that let go of a pool has to close it. -/
def closing : Option P → Call P
  | some pool => .retires pool
  | none => .ended (.ok none)

/-- One step of a caller. -/
def step (opener : Opener σ P) : Call P → Work (Desk σ P) Empty (Call P)
  | .asks => do
    match (← Work.state).handle.pool with
    | some pool => return .ended (.ok (some pool))
    | none => return .waits
  | .waits => do
    if (← Work.state).isTaken then return .waits
    else
      Work.change fun d => { d with isTaken := true }
      return .looks
  | .looks => do
    let h := (← Work.state).handle
    match h.pool with
    | some pool =>
      Desk.yield
      return .ended (.ok (some pool))
    | none => return .opens h.info
  | .opens info => do
    match ← (Desk.outward (opener.connect info)).attempt with
    | .ok pool => return .brings info pool
    | .error f =>
      Desk.yield
      return .ended (.error f)
  | .brings info pool => do
    let (arrival, h) := (← Work.state).handle.arrive info pool
    match arrival with
    | .kept =>
      Desk.changeHandle fun _ => h
      Desk.yield
      return .ended (.ok (some pool))
    | .superseded existing => return .discards pool (some existing)
    | .outdated => return .discards pool none
  | .discards pool existing => do
    Desk.outward (opener.close pool)
    Desk.yield
    match existing with
    | some p => return .ended (.ok (some p))
    | none => return .waits
  | .replaces info => do
    match ← (Desk.outward (opener.connect info)).attempt with
    | .ok pool => return .installs info pool
    | .error f => return .ended (.error f)
  | .installs info pool => do
    let old := (← Work.state).handle.pool
    Desk.changeHandle fun h => h.install info pool
    return closing old
  | .releases => do
    let old := (← Work.state).handle.pool
    Desk.changeHandle Handle.release
    return closing old
  | .retires pool => do
    Desk.outward (opener.close pool)
    return .ended (.ok none)
  | .ended result => return .ended result

/-- Is it the turn of the caller? -/
def hasTurn : Call P → Bool
  | .looks | .opens _ | .brings .. | .discards .. => true
  | _ => false

/-- Give a caller up that has not ended. -/
def abandon (failure : Failure) : Call P → Work (Desk σ P) Empty (Call P)
  | .ended result => return .ended result
  | c => do
    if c.hasTurn then Desk.yield
    return .ended (.error failure)

/-- Let the caller at a position take a step. -/
def stepAt (opener : Opener σ P) (calls : List (Call P)) (i : Nat) :
    Work (Desk σ P) Empty (List (Call P)) :=
  match calls[i]? with
  | some c => do return calls.set i (← c.step opener)
  | none => return calls

/-- Let callers take steps in the order of their positions. -/
def interleave (opener : Opener σ P) (schedule : List Nat) (calls : List (Call P)) :
    Work (Desk σ P) Empty (List (Call P)) :=
  schedule.foldlM (stepAt opener) calls

/-- The pool that a caller was given. -/
def pool? : Call P → Option P
  | .ended (.ok pool) => pool
  | _ => none

/-- Two callers ask for the pool at the same time. -/
def twoAtOnce (opener : Opener σ P) : Work (Desk σ P) Empty (List (Call P)) :=
  interleave opener [0, 1, 0, 1, 0, 1, 0, 1, 0, 1, 0, 1] [.asks, .asks]

/-- A caller asks for the pool; while it is being opened another one installs new details, and
    perhaps a third one lets go of their pool. -/
def overtaken (opener : Opener σ P) (info : ConnectionInfo) (releasing : Bool) :
    Work (Desk σ P) Empty (List (Call P)) :=
  interleave opener ([0, 0, 0, 0, 1, 1, 1, 2, 2, 0, 0, 0, 0, 0, 0, 0])
    ([.asks, .replaces info] ++ if releasing then [.releases] else [])

end Call

end SqlGateway
