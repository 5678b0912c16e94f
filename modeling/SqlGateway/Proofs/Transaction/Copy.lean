import SqlGateway.Proofs.Transaction.UnitOfWork

/-! The copy of a transaction on a file or in memory:

        Stores s d       the pool shows d, apart from the copy of a transaction
        Opened s d c     it shows d, and there is a copy, which holds c

        start            c = d
        query            c changes as the engine changes a database by itself
        commit           the pool shows c
        rollback         there is no copy -/

namespace SqlGateway

/-! ### The engine by itself -/

/-- Plans run on a database. -/
def Engine.runner : Runner Engine.Database Unit where
  dialect _ := .sqlite
  read _ p := do (Work.ofExcept ((← Work.state).read p)).report Fault.toFailure
  write _ p := Work.report Fault.toFailure do
    let (count, after) ← Work.ofExcept ((← Work.state).write p)
    Work.change fun _ => after
    return count

/-- Can the pool be written without asking a server? -/
def Pool.IsWritable (p : Pool) : Prop :=
  p.isReadOnly = false ∧ ∀ login link, p.target ≠ .server login link

namespace Site

/-- The pool of an identifier as a database with transactions that run queries within a limit. -/
def backend (limit : Nat) (id : PoolId) : Backend Site PoolId Query QueryResult where
  start := do
    start id
    return id
  commit := commit
  rollback := rollback
  execute tx q := databases.joined.runWithin limit tx q

/-- What the pool shows apart from the copy of a transaction. -/
def Stores (id : PoolId) (s : Site) (d : Engine.Database) : Prop :=
  ∃ p, s.pool? id = some p ∧ p.IsWritable ∧ s.content { p with copy := none } = d

/-- What it shows while there is a copy. -/
def Opened (id : PoolId) (s : Site) (tx : PoolId) (d c : Engine.Database) : Prop :=
  tx = id ∧ ∃ p, s.pool? id = some p ∧ p.IsWritable ∧ p.isClosed = false ∧ p.copy = some c ∧
    s.content { p with copy := none } = d

variable {id : PoolId} {s s' : Site} {p : Pool} {d c : Engine.Database}

theorem transactions_backend (limit : Nat) (id : PoolId) :
    (backend limit id).transactions = databases.transactions id := by
  have hs : (backend limit id).start.report (transactionFailure "begin") =
      (do (start id).report (transactionFailure "begin"); return id) := by
    funext s
    show (do start id; return id : Work Site Fault PoolId).report _ s = _
    simp only [Work.report, Work.bind_apply]
    rcases start id s with ⟨_ | _ | _, t⟩ <;> rfl
  show Transactions.mk _ _ _ = Transactions.mk _ _ _
  congr 1

/-! ### Pools -/

theorem pool?_changePool (f : Pool → Pool) (h : s.pool? id = some p) :
    (s.changePool id f).pool? id = some (f p) := by
  have hp : s.pools[id.number]? = some p := h
  show (s.pools.modify id.number f)[id.number]? = some (f p)
  rw [List.getElem?_modify, hp]
  simp

theorem database_put (fs : Files) (path : Path) (d : Engine.Database) :
    (fs.put path (.database d)).database path = d := by
  simp [Files.database, Files.file?, Files.put]

theorem content_changePool (f : Pool → Pool) (q : Pool) :
    (s.changePool id f).content q = s.content q := rfl

theorem usable_of_open (h : s.pool? id = some p) (hp : p.isClosed = false) :
    usable id s = (.done p, s) := by
  simp only [usable, Work.bind_apply, Work.state, h, hp]
  rfl

theorem usable_of_closed (h : s.pool? id = some p) (hp : p.isClosed = true) :
    usable id s = (.failed .poolClosed, s) := by
  simp only [usable, Work.bind_apply, Work.state, h, hp]
  rfl

/-- A pool that is open and has no copy is free. -/
theorem free_cases (h : s.pool? id = some p) : (∃ e, free id s = (.failed e, s)) ∨
    p.isClosed = false ∧ p.copy = none ∧ free id s = (.done p, s) := by
  cases hp : p.isClosed with
  | true => exact Or.inl ⟨_, Work.bind_of_failed (usable_of_closed h hp)⟩
  | false =>
    rw [free, Work.bind_of_done (usable_of_open h hp)]
    cases hc : p.copy with
    | some c => exact Or.inl ⟨_, rfl⟩
    | none => exact Or.inr ⟨rfl, rfl, rfl⟩

/-! ### Steps of a transaction -/

/-- What a pool that can be written leads to. -/
theorem target_cases (hw : p.IsWritable) :
    (∃ path, p.target = .file path) ∨ ∃ db, p.target = .memory db := by
  cases ht : p.target with
  | file path => exact Or.inl ⟨path, rfl⟩
  | memory db => exact Or.inr ⟨db, rfl⟩
  | server login link => exact absurd ht (hw.2 login link)

theorem start_cases (h : s.pool? id = some p) (hw : p.IsWritable) :
    (∃ e, start id s = (.failed e, s)) ∨ p.isClosed = false ∧ p.copy = none ∧
      start id s =
        (.done (), s.changePool id fun q => { q with copy := some (s.content p) }) := by
  rcases free_cases h with ⟨e, hf⟩ | ⟨hp, hc, hf⟩
  · exact Or.inl ⟨e, Work.bind_of_failed hf⟩
  · refine Or.inr ⟨hp, hc, ?_⟩
    rw [start, Work.bind_of_done hf]
    obtain ⟨path, ht⟩ | ⟨db, ht⟩ := target_cases hw <;> rw [ht] <;> rfl

theorem commit_eq (h : s.pool? id = some p) (hw : p.IsWritable) (hp : p.isClosed = false)
    (hc : p.copy = some c) : commit id s = (.done (), Site.keep id { p with copy := none } c
      (s.changePool id fun q => { q with copy := none })) := by
  rw [commit, Work.bind_of_done (usable_of_open h hp), hc]
  obtain ⟨path, ht⟩ | ⟨db, ht⟩ := target_cases hw <;> rw [ht] <;> rfl

theorem rollback_eq (h : s.pool? id = some p) (hw : p.IsWritable) (hp : p.isClosed = false) :
    rollback id s = (.done (), s.changePool id fun q => { q with copy := none }) := by
  rw [rollback, Work.bind_of_done (usable_of_open h hp)]
  obtain ⟨path, ht⟩ | ⟨db, ht⟩ := target_cases hw <;> rw [ht] <;> rfl

/-- What a free pool has written is what it shows. -/
theorem stores_keep (h : s.pool? id = some p) (hw : p.IsWritable) (hc : p.copy = none)
    (d : Engine.Database) : Stores id (Site.keep id p d s) d := by
  obtain ⟨path, ht⟩ | ⟨db, ht⟩ := target_cases hw
  · have hk : Site.keep id p d s = { s with files := s.files.put path (.database d) } := by
      rw [Site.keep, hc, ht]
    rw [hk]
    refine ⟨p, h, hw, ?_⟩
    rw [content, ht]
    exact database_put s.files path d
  · have hk : Site.keep id p d s = s.changePool id fun q => { q with target := .memory d } := by
      rw [Site.keep, hc, ht]
    rw [hk]
    exact ⟨_, pool?_changePool _ h, ⟨hw.1, by simp⟩, rfl⟩

/-! ### Queries on the copy -/

theorem content_of_copy (hc : p.copy = some c) : s.content p = c := by
  rw [content, hc]

theorem mirrors_read (plan : SelectPlan) : (databases.joined.read id plan).Mirrors
    (Opened id · id d ·) (Engine.runner.read () plan) := by
  rintro s c ⟨-, p, h, hw, hp, hc, hd⟩
  have hu : (usable id).report Fault.toFailure s = (.done p, s) := by
    rw [Work.report, usable_of_open h hp]
  have hr : databases.joined.read id plan s =
      (Work.ofExcept (c.read plan)).report Fault.toFailure s := by
    show readWith usable id plan s = _
    rw [readWith, Work.bind_of_done hu, ← content_of_copy hc]
    obtain ⟨path, ht⟩ | ⟨db, ht⟩ := target_cases hw <;> rw [ht] <;> rfl
  have he : Engine.runner.read () plan c =
      (Work.ofExcept (c.read plan)).report Fault.toFailure c := rfl
  rw [hr, he]
  cases c.read plan <;> exact ⟨rfl, rfl, p, h, hw, hp, hc, hd⟩

theorem mirrors_write (plan : Plan) : (databases.joined.write id plan).Mirrors
    (Opened id · id d ·) (Engine.runner.write () plan) := by
  rintro s c ⟨-, p, h, hw, hp, hc, hd⟩
  have hu : (usable id).report Fault.toFailure s = (.done p, s) := by
    rw [Work.report, usable_of_open h hp]
  have hwrite : databases.joined.write id plan s = Work.report Fault.toFailure (do
      let (count, after) ← Work.ofExcept (c.write plan)
      Work.change (Site.keep id p after)
      return count) s := by
    show writeWith usable id plan s = _
    rw [writeWith, Work.bind_of_done hu, ← content_of_copy hc]
    obtain ⟨path, ht⟩ | ⟨db, ht⟩ := target_cases hw <;> rw [ht] <;>
      simp [keepWritten, hw.1] <;> rfl
  have he : Engine.runner.write () plan c = Work.report Fault.toFailure (do
      let (count, after) ← Work.ofExcept (c.write plan)
      Work.change fun _ => after
      return count) c := rfl
  rw [hwrite, he]
  cases c.write plan with
  | error f => exact ⟨rfl, rfl, p, h, hw, hp, hc, hd⟩
  | ok written =>
    have hk : Site.keep id p written.2 s =
        s.changePool id fun q => { q with copy := some written.2 } := by
      rw [Site.keep, hc]
    refine ⟨rfl, rfl, { p with copy := some written.2 }, ?_, hw, hp, rfl, ?_⟩
    · show (Site.keep id p written.2 s).pool? id = _
      rw [hk, pool?_changePool _ h]
    · show (Site.keep id p written.2 s).content _ = d
      rw [hk, content_changePool]
      exact hd

/-- A query does to the copy what it does to a database by itself. -/
theorem mirrors_execute (limit : Nat) (hid : id.driver = .sqlite) (q : Query) :
    ((backend limit id).execute id q).Mirrors (Opened id · id d ·)
      (Engine.runner.runWithin limit () q) := by
  have hd : databases.joined.dialect id = Engine.runner.dialect () := by
    show id.driver.dialect = .sqlite
    rw [hid]
    rfl
  have hp : databases.joined.plan id q =
      Work.ofExcept ((Plan.ofQuery (Engine.runner.dialect ()) q).mapError Failure.ofRejection) := by
    rw [Runner.plan, hd]
  show (databases.joined.runWithin limit id q).Mirrors _ _
  rw [Runner.runWithin, hp]
  refine Work.Mirrors.bind (.ofExcept _) fun plan => .withDeadline limit ?_
  cases plan with
  | select plan => exact (mirrors_read plan).bind fun rows => .ofExcept (.ok _)
  | insert | update | delete => exact (mirrors_write _).bind fun count => .ofExcept (.ok _)

/-- A pool that can be written without a server keeps a copy for its transaction. -/
theorem isPrivateCopy (limit : Nat) (hid : id.driver = .sqlite) :
    (backend limit id).IsPrivateCopy (Engine.runner.runWithin limit ()) (Stores id)
      (Opened id) where
  start_done := by
    rintro s s' tx d ⟨p, h, hw, hd⟩ hs
    obtain ⟨⟨⟩, t, hs, ht⟩ := Work.bind_eq_done_iff.mp hs
    obtain ⟨rfl, rfl⟩ := Work.pure_eq_done_iff.mp ht
    rcases start_cases h hw with ⟨e, hf⟩ | ⟨hp, hc, hs'⟩
    · rw [hf] at hs
      nomatch hs
    · rw [hs'] at hs
      obtain ⟨-, rfl⟩ := Prod.mk.inj hs
      have hd' : s.content p = d := by
        rw [← hd, ← hc]
      exact ⟨rfl, _, pool?_changePool _ h, hw, hp, congrArg some hd', hd⟩
  start_failed := by
    rintro s s' e d ⟨p, h, hw, hd⟩ hs
    rcases Work.bind_eq_failed_iff.mp hs with hs | ⟨⟨⟩, t, -, ht⟩
    · rcases start_cases h hw with ⟨e, hf⟩ | ⟨-, -, hs'⟩
      · rw [hf] at hs
        obtain ⟨-, rfl⟩ := Prod.mk.inj hs
        exact ⟨p, h, hw, hd⟩
      · rw [hs'] at hs
        nomatch hs
    · exact absurd ht Work.pure_ne_failed
  execute := by
    intro s s' tx d c q o ho he
    obtain rfl := ho.1
    obtain ⟨hout, ho'⟩ := mirrors_execute limit hid q s c ho
    rw [he] at hout ho'
    exact ⟨_, Prod.ext hout.symm rfl, ho'⟩
  commit_done := by
    rintro s s' tx d c ⟨rfl, p, h, hw, hp, hc, hd⟩ hs
    obtain ⟨-, rfl⟩ := Prod.mk.inj ((commit_eq h hw hp hc).symm.trans hs)
    exact stores_keep (pool?_changePool (fun q => { q with copy := none }) h) hw rfl c
  commit_failed := by
    rintro s s' tx d c e ⟨rfl, p, h, hw, hp, hc, hd⟩ hs
    rw [show (backend limit tx).commit tx s = _ from commit_eq h hw hp hc] at hs
    nomatch hs
  rollback := by
    rintro s s' tx d c o ⟨rfl, p, h, hw, hp, hc, hd⟩ hs
    obtain ⟨-, rfl⟩ := Prod.mk.inj ((rollback_eq h hw hp).symm.trans hs)
    exact ⟨_, pool?_changePool _ h, hw, hd⟩

end Site

end SqlGateway
