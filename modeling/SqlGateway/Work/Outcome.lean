import SqlGateway.Failure.Basic

/-! Work that may fail or stall. Work against a database comes to a value, to a failure, or to
    nothing, when the other side never answers. A deadline turns work that stalls into a timeout;
    work that is done in time is left as it is. -/

namespace SqlGateway

/-- How work ends, with failures of type `ε`. -/
inductive Outcome (ε α : Type) where
  | done (value : α)
  | failed (failure : ε)
  | stalled
  deriving Repr, DecidableEq

namespace Outcome

def ofExcept {ε α : Type} : Except ε α → Outcome ε α
  | .ok x => .done x
  | .error f => .failed f

/-- Whole seconds of a limit in milliseconds. -/
def wholeSeconds (ms : Nat) : Nat := ms / 1000

/-- Give work a limit. -/
def withDeadline {α : Type} (ms : Nat) : Outcome Failure α → Outcome Failure α
  | .stalled => .failed (.timeout "query execution" (some (wholeSeconds ms)))
  | o => o

end Outcome

end SqlGateway
