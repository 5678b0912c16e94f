import SqlGateway.Work.Outcome

/-! Work in a state. A step reads and changes a state and ends in an outcome; what it changed before
    it failed or stalled stays changed.

        step      state   outcome          state after
        pure x    s       done x           s
        fail f    s       failed f         s
        stall     s       stalled          s
        a >>= b   s       that of a, or of b after it                                             -/

namespace SqlGateway

/-- Work on a state `σ` with failures of type `ε`. -/
def Work (σ ε α : Type) : Type := σ → Outcome ε α × σ

namespace Work

variable {σ τ ε δ α β : Type}

instance : Monad (Work σ ε) where
  pure x := fun s => (.done x, s)
  bind w f := fun s =>
    match w s with
    | (.done x, s') => f x s'
    | (.failed e, s') => (.failed e, s')
    | (.stalled, s') => (.stalled, s')

/-- Work that fails. -/
def fail (e : ε) : Work σ ε α := fun s => (.failed e, s)

/-- Work that never ends. -/
def stall : Work σ ε α := fun s => (.stalled, s)

/-- The state. -/
def state : Work σ ε σ := fun s => (.done s, s)

/-- Change the state. -/
def change (f : σ → σ) : Work σ ε Unit := fun s => (.done (), f s)

/-- A result that is known already. -/
def ofExcept (r : Except ε α) : Work σ ε α := fun s => (Outcome.ofExcept r, s)

/-- Do the work and go on with its failure as a value. -/
def attempt (w : Work σ ε α) : Work σ δ (Except ε α) := fun s =>
  match w s with
  | (.done x, s') => (.done (.ok x), s')
  | (.failed e, s') => (.done (.error e), s')
  | (.stalled, s') => (.stalled, s')

/-- Report failures in another form. -/
def report (f : ε → δ) (w : Work σ ε α) : Work σ δ α := fun s =>
  match w s with
  | (.done x, s') => (.done x, s')
  | (.failed e, s') => (.failed (f e), s')
  | (.stalled, s') => (.stalled, s')

/-- Work on a part of the state. -/
def within (part : τ → σ) (put : σ → τ → τ) (w : Work σ ε α) : Work τ ε α := fun t =>
  let (o, s) := w (part t)
  (o, put s t)

/-- Give work a limit in milliseconds. -/
def withDeadline (ms : Nat) (w : Work σ Failure α) : Work σ Failure α := fun s =>
  let (o, s') := w s
  (o.withDeadline ms, s')

/-- Give work a limit if there is one. -/
def bounded (ms : Option Nat) (w : Work σ Failure α) : Work σ Failure α :=
  match ms with
  | some ms => w.withDeadline ms
  | none => w

end Work

end SqlGateway
