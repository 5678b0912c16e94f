import SqlGateway.Work.Basic

/-! Transactions and units of work. A unit of work begins a transaction of its own and ends it:
    commit if the work succeeds, rollback if it fails. A unit that is handed a transaction joins it
    and leaves its beginning and end to whoever handed it over.

        readCommitted none w       BEGIN  w  COMMIT          w succeeds
                                   BEGIN  w  ROLLBACK        w fails; its failure is reported
        readCommitted (some t) w   w                                                              -/

namespace SqlGateway

/-- Transactions `T` of one database. -/
structure Transactions (σ T : Type) where
  start : Work σ Failure T
  commit : T → Work σ Failure Unit
  rollback : T → Work σ Failure Unit

namespace Transactions

variable {σ τ T α : Type}

/-- Do work in the active transaction, or in one of its own. -/
def readCommitted (t : Transactions σ T) (active : Option T) (work : T → Work σ Failure α) :
    Work σ Failure α :=
  match active with
  | some tx => work tx
  | none => do
    let tx ← t.start
    match ← (work tx).attempt with
    | .ok x =>
      t.commit tx
      return x
    | .error f =>
      let _ ← ((t.rollback tx).attempt : Work σ Failure _)
      Work.fail f

/-- The transactions of a part of a state. -/
def within (part : τ → σ) (put : σ → τ → τ) (t : Transactions σ T) : Transactions τ T where
  start := t.start.within part put
  commit tx := (t.commit tx).within part put
  rollback tx := (t.rollback tx).within part put

end Transactions

end SqlGateway
