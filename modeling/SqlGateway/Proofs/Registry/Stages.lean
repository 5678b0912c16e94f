import SqlGateway.Proofs.Connection.Removal
import SqlGateway.Proofs.Registry.Agreement

/-! Mutations in stages. A mutation goes from one point where it may be held up to the next:

        add      opens ▸ inserts ▸ publishes ▸ ended
                            └────▸ undoes ▸ ended
        edit     finds ▸ begins ▸ updates ▸ connects ▸ commits ▸ installs ▸ retires ▸ ended
                                     └─────────┴─────▸ rollsBack ▸ ended
        remove   finds ▸ deletes ▸ releases ▸ retires ▸ forgets ▸ ended

    At every stage the step and what is left to be done after it are what is left to be done, so the
    steps one after the other come to what the mutation comes to. -/

namespace SqlGateway

variable {σ τ P T S α β : Type}

namespace Work

/-- Go on to one stage when the work is done, and to another when it has failed. -/
def proceed (w : Work τ Failure α) (next : α → S) (failed : Failure → S) : Work τ Empty S := do
  match ← w.attempt with
  | .ok a => return next a
  | .error f => return failed f

variable {w : Work τ Failure α} {next : α → S} {failed : Failure → S} {s s' : τ}

theorem proceed_apply (w : Work τ Failure α) (next : α → S) (failed : Failure → S) (s : τ) :
    w.proceed next failed s = match w s with
      | (.done a, t) => (.done (next a), t)
      | (.failed f, t) => (.done (failed f), t)
      | (.stalled, t) => (.stalled, t) := by
  rw [proceed, bind_apply, attempt]
  rcases w s with ⟨_ | _ | _, t⟩ <;> rfl

theorem proceed_eq_done_iff {st : S} : w.proceed next failed s = (.done st, s') ↔
    (∃ a, w s = (.done a, s') ∧ st = next a) ∨ ∃ f, w s = (.failed f, s') ∧ st = failed f := by
  rw [proceed_apply]
  rcases w s with ⟨_ | _ | _, t⟩ <;> simp [eq_comm, and_comm]

theorem proceed_eq_stalled_iff :
    w.proceed next failed s = (.stalled, s') ↔ w s = (.stalled, s') := by
  rw [proceed_apply]
  rcases w s with ⟨_ | _ | _, t⟩ <;> simp

theorem surely_bind {ε : Type} (w : Work τ Empty α) (k : α → Work τ Empty β) :
    ((w >>= k).surely : Work τ ε β) = w.surely >>= fun a => (k a).surely := by
  funext s
  rw [surely, report, bind_apply, bind_apply, surely, report]
  rcases w s with ⟨_ | _ | _, t⟩ <;> rfl

theorem surely_eq_self (w : Work τ Empty α) : w.surely = w := by
  funext s
  rw [surely, report]
  rcases w s with ⟨_ | e | _, t⟩
  · rfl
  · exact e.elim
  · rfl

/-- What is done after a stage, if its failure is the failure of the whole. -/
theorem proceed_bind {k : S → Work τ Failure β} (hf : ∀ f, k (failed f) = Work.fail f) :
    ((w.proceed next failed).surely >>= k) = w >>= fun a => k (next a) := by
  funext s
  rw [bind_apply, surely, report, proceed_apply, bind_apply]
  rcases w s with ⟨_ | f | _, t⟩
  · rfl
  · exact congrFun (hf f) t
  · rfl

/-- What is done after a stage, if it may fail without the whole. -/
theorem proceed_bind_attempt {k : S → Work τ Failure β} {k' : Except Failure α → Work τ Failure β}
    (ho : ∀ a, k' (.ok a) = k (next a)) (he : ∀ f, k' (.error f) = k (failed f)) :
    ((w.proceed next failed).surely >>= k) = w.attempt >>= k' := by
  funext s
  rw [bind_apply, surely, report, proceed_apply, bind_apply, attempt]
  rcases w s with ⟨a | f | _, t⟩
  · exact (congrFun (ho a) t).symm
  · exact (congrFun (he f) t).symm
  · rfl

end Work

/-- How far a mutation has come. -/
inductive Phase where
  /-- Neither the record nor the handle is changed. -/
  | before
  /-- The record is being changed. -/
  | committing
  /-- The record is changed and the handle is not. -/
  | between
  /-- The record and the handle are changed. -/
  | after
  deriving DecidableEq, Repr

/-- A mutation in stages. -/
structure Protocol (σ P T : Type) where
  Stage : Type
  start : Stage
  step : Stage → Work (Gateway σ P) Empty Stage
  /-- What is left to be done. -/
  rest : Stage → Work (Gateway σ P) Failure Unit
  phase : Stage → Phase
  /-- The transaction that is open. -/
  pending : Stage → Option T
  rest_eq : ∀ st, ((step st).surely >>= rest) = rest st

/-- After some steps what is left is the rest of what was left before them. -/
theorem Protocol.steps_rest (p : Protocol σ P T) (n : Nat) (st : p.Stage) :
    ((steps p.step n st).surely >>= p.rest) = p.rest st := by
  induction n generalizing st with
  | zero => rfl
  | succ n ih =>
    have hs : steps p.step (n + 1) st = p.step st >>= steps p.step n := rfl
    rw [hs, Work.surely_bind, bind_assoc]
    calc (p.step st).surely >>= (fun st' => (steps p.step n st').surely >>= p.rest)
        = (p.step st).surely >>= p.rest := congrArg _ (funext ih)
      _ = p.rest st := p.rest_eq st

/-! ### Parts of mutations -/

/-- Put another handle in the place of this one and hand out the pool that was there. -/
def Focus.exchange {ε : Type} (change : Handle P → Handle P) : Work (Focus σ P) ε (Option P) := do
  let old := (← handleNow).pool
  changeHandle change
  return old

namespace Gateway

/-- Close a pool that no handle has. -/
def retire {ε : Type} (opener : Opener σ P) : Option P → Work (Gateway σ P) ε Unit
  | some pool => outward (opener.close pool).surely
  | none => return ()

variable {opener : Opener σ P} {g g' : Gateway σ P} {id : String}

theorem focus_of_lookup {h : Handle P} {w : Work (Focus σ P) Failure α}
    (hl : lookup g.handles id = some h) : focus id w g = onHandle h w g :=
  Work.bind_of_done (find_eq_done_iff.mpr ⟨hl, rfl⟩)

theorem onHandle_exchange {ε : Type} (change : Handle P → Handle P)
    (hc : ∀ h, (change h).id = h.id) (h : Handle P) :
    (onHandle h (Focus.exchange change) : Work _ ε _) g =
      (.done h.pool, ⟨g.outside, replace (change h) g.handles⟩) := by
  rw [replace, hc]
  rfl

/-- A pool may as well be closed once its handle is put back. -/
theorem onHandle_retire (change : Handle P → Handle P) (hc : ∀ h, (change h).id = h.id)
    (h : Handle P) :
    (onHandle h (Focus.exchange change >>= Focus.retire opener) : Work (Gateway σ P) Failure Unit) =
      onHandle h (Focus.exchange change) >>= retire opener := by
  funext g
  rw [Work.bind_of_done (onHandle_exchange change hc h), replace, hc]
  obtain ⟨_, _, pool⟩ := h
  cases pool <;> rfl

theorem focus_retire (change : Handle P → Handle P) (hc : ∀ h, (change h).id = h.id) :
    (focus id (Focus.exchange change >>= Focus.retire opener) :
      Work (Gateway σ P) Failure Unit) = focus id (Focus.exchange change) >>= retire opener := by
  rw [focus, focus, bind_assoc]
  exact congrArg _ (funext fun h => onHandle_retire change hc h)

/-- Work outside does not matter to what is found. -/
theorem find_outward {w : Work σ Failure α} {k : Handle P → α → Work (Gateway σ P) Failure β} :
    (find id >>= fun h => outward w >>= k h) =
      find id >>= fun _ => outward w >>= fun a => find id >>= fun h => k h a := by
  funext g
  rw [Work.bind_apply, Work.bind_apply]
  rcases hf : find id g with ⟨h | e | _, g₁⟩
  · obtain ⟨hl, rfl⟩ := find_eq_done_iff.mp hf
    show (outward w >>= k h) g₁ = (outward w >>= fun a => find id >>= fun h => k h a) g₁
    rw [Work.bind_apply, Work.bind_apply]
    rcases hw : outward w g₁ with ⟨a | e | _, g₂⟩
    · obtain ⟨s, -, rfl⟩ := outward_eq_iff.mp hw
      have hf : find id ⟨s, g₁.handles⟩ = (.done h, ⟨s, g₁.handles⟩) :=
        find_eq_done_iff.mpr ⟨hl, rfl⟩
      exact (Work.bind_of_done (f := fun h => k h a) hf).symm
    · rfl
    · rfl
  · rfl
  · rfl

theorem outward_surely {ε : Type} (w : Work σ Empty α) :
    ((outward w).surely : Work (Gateway σ P) ε α) = outward w.surely := by
  funext g
  rw [Work.surely, Work.report, outward, Work.within, outward, Work.within, Work.surely,
    Work.report]
  rcases w g.outside with ⟨_ | _ | _, s⟩ <;> rfl

theorem retire_surely {ε : Type} (old : Option P) :
    ((retire opener old).surely : Work (Gateway σ P) ε Unit) = retire opener old := by
  cases old with
  | none => rfl
  | some p =>
    rw [retire, outward_surely, Work.surely_eq_self]
    rfl

theorem outward_bind {ε : Type} (w : Work σ ε α) (k : α → Work σ ε β) :
    (outward (w >>= k) : Work (Gateway σ P) ε β) = outward w >>= fun a => outward (k a) := by
  funext g
  rw [outward, Work.within, Work.bind_apply, Work.bind_apply, outward, Work.within]
  rcases w g.outside with ⟨_ | _ | _, s⟩ <;> rfl

theorem outward_attempt {ε δ : Type} (w : Work σ ε α) :
    ((outward w).attempt : Work (Gateway σ P) δ _) = outward w.attempt := Work.attempt_within w

/-- How a stage ends that is work outside. -/
theorem proceed_outward_done {w : Work σ Failure α} {next : α → S} {failed : Failure → S} {st : S}
    (h : (outward w).proceed next failed g = (.done st, g')) : ∃ s, g' = ⟨s, g.handles⟩ ∧
      ((∃ a, w g.outside = (.done a, s) ∧ st = next a) ∨
        ∃ f, w g.outside = (.failed f, s) ∧ st = failed f) := by
  obtain ⟨a, hw, rfl⟩ | ⟨f, hw, rfl⟩ := Work.proceed_eq_done_iff.mp h <;>
    obtain ⟨s, hs, rfl⟩ := outward_eq_iff.mp hw
  · exact ⟨s, rfl, Or.inl ⟨a, hs, rfl⟩⟩
  · exact ⟨s, rfl, Or.inr ⟨f, hs, rfl⟩⟩

theorem proceed_outward_stalled {w : Work σ Failure α} {next : α → S} {failed : Failure → S}
    (h : (outward w).proceed next failed g = (.stalled, g')) :
    ∃ s, g' = ⟨s, g.handles⟩ ∧ w g.outside = (.stalled, s) := by
  obtain ⟨s, hs, rfl⟩ := outward_eq_iff.mp (Work.proceed_eq_stalled_iff.mp h)
  exact ⟨s, rfl, hs⟩

/-- Forget a handle. -/
def drop {ε : Type} (id : String) : Work (Gateway σ P) ε Unit :=
  Work.change fun g => { g with handles := forget id g.handles }

end Gateway

open Gateway (outward find focus retire)

variable (store : Store σ T) (opener : Opener σ P) (id : String) (info : ConnectionInfo)

/-! ### Adding -/

/-- Where the adding of a connection stands. -/
inductive Adding (P : Type) where
  | opens
  | inserts (pool : P)
  | undoes (pool : P) (failure : Failure)
  | publishes (pool : P)
  | ended (result : Except Failure Unit)

namespace Adding

def step : Adding P → Work (Gateway σ P) Empty (Adding P)
  | .opens => (outward (opener.connect info)).proceed .inserts (.ended ∘ .error)
  | .inserts pool =>
    (outward (store.insert none id info)).proceed (fun _ => .publishes pool) (.undoes pool)
  | .undoes pool f => do
    outward (opener.close pool)
    return .ended (.error (f.intoPersist id))
  | .publishes pool => do
    Work.change fun g => { g with handles := publish ⟨id, info, some pool⟩ g.handles }
    return .ended (.ok ())
  | .ended result => return .ended result

def rest : Adding P → Work (Gateway σ P) Failure Unit
  | .opens => Gateway.add store opener id info
  | .inserts pool => do
    match ← (outward (store.insert none id info)).attempt with
    | .ok _ => Work.change fun g => { g with handles := publish ⟨id, info, some pool⟩ g.handles }
    | .error f =>
      outward (opener.close pool).surely
      Work.fail (f.intoPersist id)
  | .undoes pool f => do
    outward (opener.close pool).surely
    Work.fail (f.intoPersist id)
  | .publishes pool =>
    Work.change fun g => { g with handles := publish ⟨id, info, some pool⟩ g.handles }
  | .ended result => Work.ofExcept result

def phase : Adding P → Phase
  | .opens | .undoes .. | .ended (.error _) => .before
  | .inserts _ => .committing
  | .publishes _ => .between
  | .ended (.ok _) => .after

theorem rest_eq (st : Adding P) :
    ((step store opener id info st).surely >>= rest store opener id info) =
      rest store opener id info st := by
  cases st with
  | opens => exact Work.proceed_bind fun _ => rfl
  | inserts pool => exact Work.proceed_bind_attempt (fun _ => rfl) fun _ => rfl
  | undoes pool f =>
    rw [step, Work.surely_bind, bind_assoc, Gateway.outward_surely]
    rfl
  | publishes pool => rfl
  | ended result => rfl

/-- The adding of a connection in stages. -/
def protocol : Protocol σ P T where
  Stage := Adding P
  start := .opens
  step := step store opener id info
  rest := rest store opener id info
  phase := phase
  pending _ := none
  rest_eq := rest_eq store opener id info

end Adding

/-! ### Editing -/

/-- Where the editing of a connection stands. -/
inductive Editing (P T : Type) where
  | finds
  | begins
  | updates (tx : T)
  | connects (tx : T)
  | commits (tx : T) (pool : P)
  | rollsBack (tx : T) (failure : Failure)
  | installs (pool : P)
  | retires (old : Option P)
  | ended (result : Except Failure Unit)

namespace Transactions

variable (t : Transactions σ T) (tx : T)

/-- The end of a unit of work that has failed. -/
def undo (f : Failure) : Work σ Failure α := do
  let _ ← ((t.rollback tx).attempt : Work σ Failure _)
  Work.fail f

/-- The end of a unit of work: it is committed if it is done, and undone if it has failed. -/
def settle (work : Work σ Failure α) : Work σ Failure α := do
  match ← work.attempt with
  | .ok x =>
    t.commit tx
    return x
  | .error f => t.undo tx f

/-- Work that is done leaves the rest to be settled. -/
theorem settle_bind (w : Work σ Failure α) (f : α → Work σ Failure β) :
    t.settle tx (w >>= f) = w.attempt >>= fun
      | .ok a => t.settle tx (f a)
      | .error e => t.undo tx e := by
  funext s
  rw [settle, Work.bind_apply, Work.attempt, Work.bind_apply, Work.bind_apply, Work.attempt]
  rcases w s with ⟨_ | _ | _, s'⟩ <;> rfl

end Transactions

/-- Nothing comes after a unit of work that has failed. -/
theorem Gateway.outward_undo (t : Transactions σ T) (tx : T) (f : Failure)
    (k : α → Work (Gateway σ P) Failure β) :
    outward (t.undo tx f) >>= k = (outward (t.rollback tx)).attempt >>= fun _ => Work.fail f := by
  rw [Transactions.undo, Gateway.outward_bind, bind_assoc, ← Gateway.outward_attempt]
  rfl

namespace Editing

def step : Editing P T → Work (Gateway σ P) Empty (Editing P T)
  | .finds => (find id).proceed (fun _ => .begins) (.ended ∘ .error)
  | .begins => (outward store.start).proceed .updates (.ended ∘ .error)
  | .updates tx =>
    (outward (store.update (some tx) id info)).proceed (fun _ => .connects tx) (.rollsBack tx)
  | .connects tx => (outward (opener.connect info)).proceed (.commits tx) (.rollsBack tx)
  | .commits tx pool =>
    (outward (store.commit tx)).proceed (fun _ => .installs pool) (.ended ∘ .error)
  | .rollsBack tx f =>
    (outward (store.rollback tx)).proceed (fun _ => .ended (.error f)) fun _ => .ended (.error f)
  | .installs pool =>
    (focus id (Focus.exchange fun h => h.install info pool)).proceed .retires (.ended ∘ .error)
  | .retires old => do
    retire opener old
    return .ended (.ok ())
  | .ended result => return .ended result

def rest : Editing P T → Work (Gateway σ P) Failure Unit
  | .finds => Gateway.edit store opener id info
  | .begins => do
    let pool ← outward (store.readCommitted none fun tx => do
      store.update (some tx) id info
      opener.connect info)
    focus id (Focus.install opener info pool)
  | .updates tx => do
    let pool ← outward (store.settle tx do
      store.update (some tx) id info
      opener.connect info)
    focus id (Focus.install opener info pool)
  | .connects tx => do
    let pool ← outward (store.settle tx (opener.connect info))
    focus id (Focus.install opener info pool)
  | .commits tx pool => do
    outward (store.commit tx)
    focus id (Focus.install opener info pool)
  | .rollsBack tx f => do
    let _ ← (outward (store.rollback tx)).attempt
    Work.fail f
  | .installs pool => focus id (Focus.install opener info pool)
  | .retires old => retire opener old
  | .ended result => Work.ofExcept result

def phase : Editing P T → Phase
  | .finds | .begins | .updates _ | .connects _ | .rollsBack .. | .ended (.error _) => .before
  | .commits .. => .committing
  | .installs _ => .between
  | .retires _ | .ended (.ok _) => .after

theorem rest_eq (st : Editing P T) :
    ((step store opener id info st).surely >>= rest store opener id info) =
      rest store opener id info st := by
  cases st with
  | finds =>
    refine (Work.proceed_bind (k := rest store opener id info) fun _ => rfl).trans ?_
    exact (Gateway.find_outward (k := fun h pool =>
      Gateway.onHandle h (Focus.install opener info pool))).symm
  | begins =>
    refine (Work.proceed_bind (k := rest store opener id info) fun _ => rfl).trans ?_
    show _ = outward (store.start >>= fun tx => store.settle tx _) >>= _
    rw [Gateway.outward_bind, bind_assoc]
    rfl
  | updates tx =>
    rw [rest, Transactions.settle_bind, Gateway.outward_bind, ← Gateway.outward_attempt,
      bind_assoc]
    exact Work.proceed_bind_attempt (fun _ => rfl) fun f =>
      Gateway.outward_undo store.toTransactions tx f _
  | connects tx =>
    rw [rest, Transactions.settle, Gateway.outward_bind, ← Gateway.outward_attempt, bind_assoc]
    refine Work.proceed_bind_attempt (fun pool => ?_) fun f =>
      Gateway.outward_undo store.toTransactions tx f _
    rw [Gateway.outward_bind, bind_assoc]
    rfl
  | commits tx pool => exact Work.proceed_bind fun _ => rfl
  | rollsBack tx f => exact Work.proceed_bind_attempt (fun _ => rfl) fun _ => rfl
  | installs pool =>
    refine (Work.proceed_bind (k := rest store opener id info) fun _ => rfl).trans ?_
    exact (Gateway.focus_retire (fun h => h.install info pool) fun _ => rfl).symm
  | retires old =>
    rw [step, Work.surely_bind, bind_assoc, Gateway.retire_surely]
    exact bind_pure_unit
  | ended result => rfl

/-- The transaction that is open. -/
def pending : Editing P T → Option T
  | .updates tx | .connects tx | .commits tx _ | .rollsBack tx _ => some tx
  | _ => none

/-- The editing of a connection in stages. -/
def protocol : Protocol σ P T where
  Stage := Editing P T
  start := .finds
  step := step store opener id info
  rest := rest store opener id info
  phase := phase
  pending := pending
  rest_eq := rest_eq store opener id info

end Editing

/-! ### Removing -/

/-- Where the removing of a connection stands. -/
inductive Removing (P : Type) where
  | finds
  | deletes
  | releases
  | retires (old : Option P)
  | forgets
  | ended (result : Except Failure Unit)

namespace Removing

def step : Removing P → Work (Gateway σ P) Empty (Removing P)
  | .finds => (find id).proceed (fun _ => .deletes) (.ended ∘ .error)
  | .deletes => (outward (store.delete none id)).proceed (fun _ => .releases) (.ended ∘ .error)
  | .releases => (focus id (Focus.exchange Handle.release)).proceed .retires (.ended ∘ .error)
  | .retires old => do
    retire opener old
    return .forgets
  | .forgets => do
    Gateway.drop id
    return .ended (.ok ())
  | .ended result => return .ended result

def rest : Removing P → Work (Gateway σ P) Failure Unit
  | .finds => Gateway.remove store opener id
  | .deletes => do
    outward (store.delete none id)
    focus id (Focus.close opener)
    Gateway.drop id
  | .releases => do
    focus id (Focus.close opener)
    Gateway.drop id
  | .retires old => do
    retire opener old
    Gateway.drop id
  | .forgets => Gateway.drop id
  | .ended result => Work.ofExcept result

def phase : Removing P → Phase
  | .finds | .ended (.error _) => .before
  | .deletes => .committing
  | .releases | .retires _ | .forgets => .between
  | .ended (.ok _) => .after

theorem rest_eq (st : Removing P) :
    ((step store opener id st).surely >>= rest store opener id) = rest store opener id st := by
  cases st with
  | finds =>
    refine (Work.proceed_bind (k := rest store opener id) fun _ => rfl).trans ?_
    show (find id >>= fun _ => outward (store.delete none id) >>= fun _ =>
      focus id (Focus.close opener) >>= fun _ => Gateway.drop id) = _
    simp only [focus, bind_assoc]
    exact (Gateway.find_outward (w := store.delete none id) (k := fun h _ => do
      Gateway.onHandle h (Focus.close opener)
      Gateway.drop id)).symm
  | deletes => exact Work.proceed_bind fun _ => rfl
  | releases =>
    refine (Work.proceed_bind (k := rest store opener id) fun _ => rfl).trans ?_
    show _ = focus id (Focus.exchange Handle.release >>= Focus.retire opener) >>= _
    rw [Gateway.focus_retire Handle.release fun _ => rfl, bind_assoc]
    rfl
  | retires old =>
    rw [step, Work.surely_bind, bind_assoc, Gateway.retire_surely]
    rfl
  | forgets => rfl
  | ended result => rfl

/-- The removing of a connection in stages. -/
def protocol : Protocol σ P T where
  Stage := Removing P
  start := .finds
  step := step store opener id
  rest := rest store opener id
  phase := phase
  pending _ := none
  rest_eq := rest_eq store opener id

end Removing

/-- A mutation in stages. -/
def Mutation.protocol : Mutation → Protocol σ P T
  | .add id info => Adding.protocol store opener id info
  | .edit id info => Editing.protocol store opener id info
  | .remove id => Removing.protocol store opener id

theorem Mutation.rest_start (m : Mutation) :
    (m.protocol store opener).rest (m.protocol store opener).start = m.run store opener := by
  cases m <;> rfl

/-- After any number of steps, what is left to be done makes the mutation whole. -/
theorem Mutation.steps_rest (m : Mutation) (n : Nat) :
    ((steps (m.protocol store opener).step n (m.protocol store opener).start).surely >>=
      (m.protocol store opener).rest) = m.run store opener := by
  rw [Protocol.steps_rest, rest_start]

end SqlGateway
