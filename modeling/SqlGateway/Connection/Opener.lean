import SqlGateway.Connection.Info
import SqlGateway.Work.Basic

/-! Opening and closing pools of connections. What a pool is and what lies behind it is left open:
    `σ` is everything outside the gateway and `P` is a pool. -/

namespace SqlGateway

/-- How pools are opened and closed. Closing cannot fail, but it may never end. -/
structure Opener (σ P : Type) where
  connect : ConnectionInfo → Work σ Failure P
  close : P → Work σ Empty Unit

namespace Work

/-- Work that cannot fail, as a part of work that can. -/
def surely {σ ε α : Type} (w : Work σ Empty α) : Work σ ε α := w.report Empty.elim

end Work

end SqlGateway
