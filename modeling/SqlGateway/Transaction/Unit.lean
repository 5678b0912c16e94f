import SqlGateway.Query.Run

/-! Units of work built from queries. A task is a query, a refusal, or further tasks that run as a
    unit of their own; such a unit joins the one around it, so the whole is committed or rolled back
    at once. Every query that was run leaves its result or its failure in the progress. -/

namespace SqlGateway

/-- A piece of a unit of work. -/
inductive Task where
  | query (query : Query)
  | refusal (failure : Failure)
  | unit (tasks : List Task)

/-- What the queries of a unit came to so far. -/
structure Progress (σ : Type) where
  outside : σ
  results : List (Except Failure QueryResult) := []

namespace Task

variable {σ T : Type}

/-- Work outside. -/
def outward {ε α : Type} (w : Work σ ε α) : Work (Progress σ) ε α :=
  w.within Progress.outside fun s p => { p with outside := s }

/-- Run a query and note what it came to. -/
def runQuery (r : Runner σ T) (limit : Nat) (tx : T) (q : Query) :
    Work (Progress σ) Failure Unit := do
  let result ← (outward (r.runWithin limit tx q)).attempt
  Work.change fun p => { p with results := p.results ++ [result] }
  match result with
  | .ok _ => return ()
  | .error f => Work.fail f

mutual

/-- Run a task in a transaction. -/
def run (t : Transactions (Progress σ) T) (r : Runner σ T) (limit : Nat) (tx : T) :
    Task → Work (Progress σ) Failure Unit
  | .query q => runQuery r limit tx q
  | .refusal f => Work.fail f
  | .unit tasks => t.readCommitted (some tx) fun tx => runAll t r limit tx tasks

/-- Run tasks in order up to the first failure. -/
def runAll (t : Transactions (Progress σ) T) (r : Runner σ T) (limit : Nat) (tx : T) :
    List Task → Work (Progress σ) Failure Unit
  | [] => return ()
  | task :: rest => do
    run t r limit tx task
    runAll t r limit tx rest

end

/-- Run tasks as one unit of work in a pool. -/
def runUnit {P : Type} (db : Databases σ P T) (limit : Nat) (pool : P) (tasks : List Task) :
    Work (Progress σ) Failure Unit :=
  let t := (db.transactions pool).within Progress.outside fun s p => { p with outside := s }
  t.readCommitted none fun tx => runAll t db.joined limit tx tasks

end Task

end SqlGateway
