import SqlGateway.Proofs.Transaction.Copy
import SqlGateway.Transaction.Unit

/-! Units of work are all or nothing. However deep its units are nested, a whole has one begin and
    one end, and the store holds after it what it held before, or what all its statements made of it:

        begin fails          begin                              store as before
        work is done         begin  statements …  commit        store with all statements
        commit fails         begin  statements …  commit        store as before
        work fails           begin  statements …  rollback      store as before

    Tasks are such units, so what is said here holds of every list of tasks that is run as one. -/

namespace SqlGateway

namespace Backend

variable {σ T S R D α : Type} {b : Backend σ T S R} {effect : S → Work D Failure R}
  {Stores : σ → D → Prop} {Opened : σ → T → D → D → Prop}

/-- A unit does its work with this outcome, leaves this state, and does nothing to the database but
    what the marks say, in their order. -/
def Ends (b : Backend σ T S R) (u : UnitOfWork S R α) (s : σ) (o : Outcome Failure α) (s' : σ)
    (marks : List (Mark T S)) : Prop :=
  b.unit u s = (o, s') ∧ b.noted.unit u (s, []) = (o, s', marks)

section Ends

variable {u : UnitOfWork S R α} {s s₁ s₂ s₃ : σ} {tx : T} {marks marks' : List (Mark T S)}

theorem transactions_start (hs : b.start s = (.done tx, s₁)) :
    b.transactions.start s = (.done tx, s₁) := by
  simp [transactions, Work.report, hs]

theorem unit_of_not_started {e : Fault} (hs : b.start s = (.failed e, s₁)) :
    b.unit u s = (.failed (Site.transactionFailure "begin" e), s₁) := by
  have ht : b.transactions.start s = (.failed (Site.transactionFailure "begin" e), s₁) := by
    simp [transactions, Work.report, hs]
  exact Work.bind_eq_failed_iff.mpr (Or.inl ht)

theorem unit_of_committed {a : α} (hs : b.start s = (.done tx, s₁))
    (hr : b.run tx u s₁ = (.done a, s₂)) (hc : b.commit tx s₂ = (.done (), s₃)) :
    b.unit u s = (.done a, s₃) := by
  have ht : b.transactions.commit tx s₂ = (.done (), s₃) := by
    simp [transactions, Work.report, hc]
  refine Work.bind_eq_done_iff.mpr ⟨tx, s₁, transactions_start hs, ?_⟩
  refine Work.bind_eq_done_iff.mpr ⟨.ok a, s₂, Work.attempt_eq_ok_iff.mpr hr, ?_⟩
  exact Work.bind_eq_done_iff.mpr ⟨(), s₃, ht, rfl⟩

theorem unit_of_not_committed {a : α} {e : Fault} (hs : b.start s = (.done tx, s₁))
    (hr : b.run tx u s₁ = (.done a, s₂)) (hc : b.commit tx s₂ = (.failed e, s₃)) :
    b.unit u s = (.failed (Site.transactionFailure "commit" e), s₃) := by
  have ht : b.transactions.commit tx s₂ =
      (.failed (Site.transactionFailure "commit" e), s₃) := by
    simp [transactions, Work.report, hc]
  refine Work.bind_eq_failed_iff.mpr (Or.inr ⟨tx, s₁, transactions_start hs, ?_⟩)
  refine Work.bind_eq_failed_iff.mpr (Or.inr ⟨.ok a, s₂, Work.attempt_eq_ok_iff.mpr hr, ?_⟩)
  exact Work.bind_eq_failed_iff.mpr (Or.inl ht)

theorem unit_of_failed {f : Failure} {o : Outcome Fault Unit} (hs : b.start s = (.done tx, s₁))
    (hr : b.run tx u s₁ = (.failed f, s₂)) (hb : b.rollback tx s₂ = (o, s₃))
    (ho : o ≠ .stalled) : b.unit u s = (.failed f, s₃) := by
  have ht : ∃ r, ((b.transactions.rollback tx).attempt : Work σ Failure _) s₂ = (.done r, s₃) := by
    cases o with
    | stalled => exact absurd rfl ho
    | _ => simp [transactions, Work.report, Work.attempt, hb]
  obtain ⟨r, ht⟩ := ht
  refine Work.bind_eq_failed_iff.mpr (Or.inr ⟨tx, s₁, transactions_start hs, ?_⟩)
  refine Work.bind_eq_failed_iff.mpr (Or.inr ⟨.error f, s₂, Work.attempt_eq_error_iff.mpr hr, ?_⟩)
  exact Work.bind_eq_failed_iff.mpr (Or.inr ⟨r, s₃, ht, rfl⟩)

end Ends

/-- A unit of work begins once, and if it could begin it ends its transaction once. Work that is
    done is committed, and the store then holds what all its statements made of it. Work that fails
    is rolled back and its own failure reported, whatever comes of the rollback; a begin or a commit
    that fails is reported as a failure of the transaction. Unless it was committed, the store is as
    before. A unit that joins a transaction does nothing but run statements. -/
theorem unit_all_or_nothing (h : b.IsPrivateCopy effect Stores Opened) (u : UnitOfWork S R α)
    {s : σ} {d : D} (hd : Stores s d) :
    (∀ e s₁, b.start s = (.failed e, s₁) →
      b.Ends u s (.failed (.transaction ("Failed to begin: " ++ e.text))) s₁ [.start] ∧
        Stores s₁ d) ∧
    (∀ tx s₁ o s₂, b.start s = (.done tx, s₁) → b.run tx u s₁ = (o, s₂) →
      ∃ qs, u.alone effect d = (o, effects effect d qs) ∧
        (∀ a s₃, o = .done a → b.commit tx s₂ = (.done (), s₃) →
          b.Ends u s (.done a) s₃ (.start :: qs.map (.statement tx) ++ [.commit tx]) ∧
            Stores s₃ (effects effect d qs)) ∧
        (∀ a e s₃, o = .done a → b.commit tx s₂ = (.failed e, s₃) →
          b.Ends u s (.failed (.transaction ("Failed to commit: " ++ e.text))) s₃
            (.start :: qs.map (.statement tx) ++ [.commit tx]) ∧ Stores s₃ d) ∧
        (∀ f r s₃, o = .failed f → b.rollback tx s₂ = (r, s₃) → r ≠ .stalled →
          b.Ends u s (.failed f) s₃ (.start :: qs.map (.statement tx) ++ [.rollback tx]) ∧
            Stores s₃ d)) ∧
    ∀ {β : Type} (inner : UnitOfWork S R β) (tx : T) (s : σ) (marks : List (Mark T S)),
      ∃ qs : List S,
      b.noted.transactions.readCommitted (some tx) (fun tx => b.noted.run tx inner) (s, marks) =
        ((b.run tx inner s).1, (b.run tx inner s).2, marks ++ qs.map (.statement tx)) := by
  refine ⟨fun e s₁ hs => ?_, fun tx s₁ o s₂ hs hr => ?_, fun inner tx s marks => ?_⟩
  · have hn : b.noted.start (s, []) = (.failed e, s₁, [.start]) := by
      simp [noted, Work.marked, hs]
    exact ⟨⟨unit_of_not_started hs, unit_of_not_started hn⟩, h.start_failed hd hs⟩
  · obtain ⟨qs, hn, ha, ho⟩ := h.run u (h.start_done hd hs) [.start]
    rw [hr] at hn ha ho
    have hns : b.noted.start (s, []) = (.done tx, s₁, [.start]) := by
      simp [noted, Work.marked, hs]
    refine ⟨qs, ha, ?_, ?_, ?_⟩
    · rintro a s₃ rfl hcommit
      refine ⟨⟨unit_of_committed hs hr hcommit, unit_of_committed hns hn ?_⟩,
        h.commit_done ho hcommit⟩
      simp [noted, Work.marked, hcommit]
    · rintro a e s₃ rfl hcommit
      refine ⟨⟨unit_of_not_committed hs hr hcommit, unit_of_not_committed hns hn ?_⟩,
        h.commit_failed ho hcommit⟩
      simp [noted, Work.marked, hcommit]
    · rintro f r s₃ rfl hrollback hstall
      refine ⟨⟨unit_of_failed hs hr hrollback hstall, unit_of_failed hns hn ?_ hstall⟩,
        h.rollback ho hrollback⟩
      simp [noted, Work.marked, hrollback]
  · exact noted_run b tx inner s marks

end Backend

namespace Site

/-- A table of names. -/
def items (names : List String) : Engine.Database where
  tables := [{
    name := "items"
    columns := [{ name := "name", declared := "TEXT" }]
    rows := (names.zipIdx 1).map fun (name, n) => ⟨n, [.text name]⟩ }]

/-- A pool of such a table in memory, and its identifier. -/
def itemsInMemory (names : List String) : Site := { pools := [{ target := .memory (items names) }] }

def itemsPool : PoolId := ⟨0, .sqlite⟩

def insertItem (name : String) : Query :=
  (Query.on .insert "items").addColumn { name := "name", value := some (.text name) }

/-- A joined unit inserts a name, and the unit around it comes to a result of its own. -/
def insertJoined (result : Except Failure Unit) : UnitOfWork Query QueryResult Unit :=
  .joined (.statement (insertItem "inner") fun r => .ends (r.map fun _ => ())) fun _ => .ends result

/-- Both ends of a unit around a joined one: the name is in the table after a commit, and it is not
    there if the outer unit failed. -/
theorem unit_all_or_nothing_insertJoined :
    Stores itemsPool (itemsInMemory []) (items []) ∧
    (∃ s', (backend 1000 itemsPool).unit (insertJoined (.ok ())) (itemsInMemory []) =
      (.done (), s') ∧ Stores itemsPool s' (items ["inner"])) ∧
    ∃ s', (backend 1000 itemsPool).unit (insertJoined (.error (.internal "outer fails")))
      (itemsInMemory []) = (.failed (.internal "outer fails"), s') ∧
        Stores itemsPool s' (items []) := by
  have hs : Stores itemsPool (itemsInMemory []) (items []) :=
    ⟨_, rfl, ⟨rfl, fun _ _ => Target.noConfusion⟩, rfl⟩
  have hb : (backend 1000 itemsPool).IsPrivateCopy _ _ _ := isPrivateCopy 1000 rfl
  refine ⟨hs, ?_, ?_⟩
  · obtain ⟨-, hrun, -⟩ := Backend.unit_all_or_nothing hb (insertJoined (.ok ())) hs
    obtain ⟨qs, ha, hdone, -, -⟩ := hrun _ _ _ _ rfl rfl
    obtain ⟨⟨hu, -⟩, hs'⟩ := hdone () _ rfl rfl
    have he : effects (Engine.runner.runWithin 1000 ()) (items []) qs = items ["inner"] :=
      (congrArg Prod.snd ha).symm
    exact ⟨_, hu, he ▸ hs'⟩
  · obtain ⟨-, hrun, -⟩ :=
      Backend.unit_all_or_nothing hb (insertJoined (.error (.internal "outer fails"))) hs
    obtain ⟨qs, -, -, -, hfailed⟩ := hrun _ _ _ _ rfl rfl
    obtain ⟨⟨hu, -⟩, hs'⟩ := hfailed _ _ _ rfl rfl nofun
    exact ⟨_, hu, hs'⟩

end Site

/-! ### Tasks -/

namespace Task

variable {σ T D ε α β : Type} {b : Backend σ T Query QueryResult}
  {effect : Query → Work D Failure QueryResult}
  {Stores : σ → D → Prop} {Opened : σ → T → D → D → Prop} {r : Runner σ T} {limit : Nat}

mutual

/-- A task as the beginning of a unit of work. -/
def tree : Task → (Except Failure Unit → UnitOfWork Query Unit Unit) → UnitOfWork Query Unit Unit
  | .query q, next => .statement q next
  | .refusal f, next => next (.error f)
  | .unit tasks, next => .joined (trees tasks) next

/-- Tasks as a unit of work, which ends at the first failure. -/
def trees : List Task → UnitOfWork Query Unit Unit
  | [] => .ends (.ok ())
  | task :: rest => tree task fun
    | .ok () => trees rest
    | .error f => .ends (.error f)

end

/-- The same database, where queries leave what they came to in the progress. -/
def backend (b : Backend σ T Query QueryResult) (r : Runner σ T) (limit : Nat) :
    Backend (Progress σ) T Query Unit where
  start := outward b.start
  commit tx := outward (b.commit tx)
  rollback tx := outward (b.rollback tx)
  execute := runQuery r limit

theorem attempt_bind (w : Work σ ε α) (f : α → Work σ ε β) :
    (w.attempt >>= fun
      | .ok a => f a
      | .error e => Work.fail e) = w >>= f := by
  funext s
  simp only [Work.bind_apply, Work.attempt]
  rcases w s with ⟨_ | _ | _, t⟩ <;> rfl

theorem outward_eq_iff {w : Work σ ε α} {o : Outcome ε α} {p p' : Progress σ} :
    outward w p = (o, p') ↔ ∃ s, w p.outside = (o, s) ∧ p' = { p with outside := s } :=
  Work.within_eq_iff

theorem report_outward (f : Fault → Failure) (w : Work σ Fault α) :
    (outward w).report f = outward (w.report f) := by
  funext p
  simp only [outward, Work.within, Work.report]
  rcases w p.outside with ⟨_ | _ | _, t⟩ <;> rfl

section

-- the transactions do not matter, since tasks in a transaction only join it
variable {t : Transactions (Progress σ) T}

mutual

theorem run_tree (tx : T) : ∀ (task : Task)
    (next : Except Failure Unit → UnitOfWork Query Unit Unit),
    (backend b r limit).run tx (task.tree next) =
      (run t r limit tx task).attempt >>= fun x => (backend b r limit).run tx (next x)
  | .query q, next => rfl
  | .refusal f, next => rfl
  | .unit tasks, next => by
    rw [tree, Backend.run, run]
    simp only [Transactions.readCommitted, run_trees tx tasks]

/-- In a transaction tasks do what their tree does. -/
theorem run_trees (tx : T) : ∀ tasks : List Task,
    (backend b r limit).run tx (trees tasks) = runAll t r limit tx tasks
  | [] => rfl
  | task :: rest => by
    rw [trees, run_tree tx task, runAll]
    refine Eq.trans (bind_congr fun x => ?_) (attempt_bind _ _)
    cases x with
    | ok => exact run_trees tx rest
    | error f => rfl

end

end

/-- Tasks run as one are a unit of work of the pool. -/
theorem runUnit_eq (limit : Nat) (id : PoolId) (tasks : List Task) :
    runUnit Site.databases limit id tasks =
      (backend (Site.backend limit id) Site.databases.joined limit).unit (trees tasks) := by
  have ht : (backend (Site.backend limit id) Site.databases.joined limit).transactions =
      (Site.databases.transactions id).within Progress.outside
        fun s p => { p with outside := s } := by
    rw [← Site.transactions_backend limit id]
    simp only [Backend.transactions, Transactions.within, backend, report_outward]
    rfl
  rw [Backend.unit, ht, runUnit]
  exact congrArg _ (funext fun tx => (run_trees tx tasks).symm)

/-- What the queries came to is kept apart from the data. -/
theorem isPrivateCopy (h : b.IsPrivateCopy effect Stores Opened)
    (hr : ∀ tx q, b.execute tx q = r.runWithin limit tx q) :
    (backend b r limit).IsPrivateCopy (fun q => do let _ ← effect q)
      (fun p => Stores p.outside) (fun p => Opened p.outside) where
  start_done hd hs := by
    obtain ⟨s, hw, rfl⟩ := outward_eq_iff.mp hs
    exact h.start_done hd hw
  start_failed hd hs := by
    obtain ⟨s, hw, rfl⟩ := outward_eq_iff.mp hs
    exact h.start_failed hd hw
  execute := by
    intro p p' tx d c q o ho he
    rcases hx : b.execute tx q p.outside with ⟨x, s⟩
    obtain ⟨c', hc, ho'⟩ := h.execute ho hx
    have hq : runQuery r limit tx q p = (o, p') := he
    rw [hr] at hx
    rw [runQuery] at hq
    simp only [Work.bind_apply, Work.attempt, outward, Work.within, hx] at hq
    simp only [Work.bind_apply, hc]
    cases x <;> obtain ⟨rfl, rfl⟩ := Prod.mk.inj hq <;> exact ⟨c', rfl, ho'⟩
  commit_done ho hs := by
    obtain ⟨s, hw, rfl⟩ := outward_eq_iff.mp hs
    exact h.commit_done ho hw
  commit_failed ho hs := by
    obtain ⟨s, hw, rfl⟩ := outward_eq_iff.mp hs
    exact h.commit_failed ho hw
  rollback ho hs := by
    obtain ⟨s, hw, rfl⟩ := outward_eq_iff.mp hs
    exact h.rollback ho hw

end Task

end SqlGateway
