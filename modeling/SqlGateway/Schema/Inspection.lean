import SqlGateway.Query.Run

/-! Inspecting the database of a handle: its tables and its routines. Failures name the connection,
    and a table that was asked for has to exist. -/

namespace SqlGateway.Focus

variable {σ P T : Type}

/-- Open the handle if need be and read from its catalog, perhaps within a limit in milliseconds. -/
def inspect {α : Type} (opener : Opener σ P) (limit : Option Nat)
    (read : P → Work σ Failure (List α)) :
    Work (Focus σ P) Failure (List α) := do
  let id := (← handleNow).id
  let work := do
    let pool ← ensureOpen opener
    outward (read pool)
  (work.bounded limit).report (Failure.intoIntrospection id)

/-- The tables, or the one that is named. -/
def tables (db : Databases σ P T) (limit : Option Nat) (only : Option String) :
    Work (Focus σ P) Failure (List Table) := do
  let found := foldTables (← inspect db.toOpener limit fun pool => db.tables pool only)
  match only, found with
  | some name, [] => Work.fail (.notFound "Table" name)
  | _, _ => return found

/-- The routines. -/
def routines (db : Databases σ P T) (limit : Option Nat) :
    Work (Focus σ P) Failure (List Routine) := do
  return foldRoutines (← inspect db.toOpener limit db.routines)

end SqlGateway.Focus
