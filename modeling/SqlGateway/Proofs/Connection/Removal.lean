import SqlGateway.Proofs.Connection.Effect
import SqlGateway.Registry.Basic

/-! Requests for a connection, and its removal from the registry. Each goes from one point where
    others may come in between to the next:

        arrives ──▶ calls ──▶ asks ──▶ ended                 a request of a pool
           └──────────┴──────────────▶ ended                 not found, or it could not be opened
        finds ──▶ deletes ──▶ closes ──▶ forgets ──▶ ended   a removal

    Who has looked the connection up keeps hold of its handle, whether it is still registered or
    not. -/

namespace SqlGateway

variable {σ P T α : Type}

/-- A connection as requests and a removal share it: its handle, and whether the registry has it. -/
structure Entry (σ P : Type) where
  desk : Desk σ P
  isRegistered : Bool := true

namespace Entry

variable {ε : Type}

/-- Work at the handle. -/
def atDesk (w : Work (Desk σ P) ε α) : Work (Entry σ P) ε α :=
  w.within Entry.desk fun d e => { e with desk := d }

/-- Work outside. -/
def outward (w : Work σ ε α) : Work (Entry σ P) ε α := atDesk (Desk.outward w)

end Entry

/-- Where a request stands. -/
inductive Request (P α : Type) where
  | arrives
  | calls (call : Call P)
  | asks (pool : P)
  | ended (result : Except Failure α)

namespace Request

/-- A request goes on with the pool that its caller was given. -/
def follow : Call P → Request P α
  | .ended (.ok (some pool)) => .asks pool
  | .ended (.error f) => .ended (.error f)
  | c => .calls c

/-- One step of a request that asks something of the pool. -/
def step (opener : Opener σ P) (ask : P → Work σ Failure α) :
    Request P α → Work (Entry σ P) Empty (Request P α)
  | .arrives => do
    let e ← Work.state
    if e.isRegistered then return .calls .asks
    else return .ended (.error (.connectionNotFound e.desk.handle.id))
  | .calls c => do return follow (← Entry.atDesk (c.step opener))
  | .asks pool => do return .ended (← (Entry.outward (ask pool)).attempt)
  | .ended result => return .ended result

/-- Give a request up that has not ended. -/
def abandon (failure : Failure) : Request P α → Work (Entry σ P) Empty (Request P α)
  | .calls c => do
    let _ ← Entry.atDesk (c.abandon failure)
    return .ended (.error failure)
  | .ended result => return .ended result
  | _ => return .ended (.error failure)

end Request

/-- Where a removal stands. -/
inductive Removal (P : Type) where
  | finds
  | deletes
  | closes (call : Call P)
  | forgets
  | ended (result : Except Failure Unit)

namespace Removal

/-- A removal goes on once the handle is closed. -/
def follow : Call P → Removal P
  | .ended _ => .forgets
  | c => .closes c

/-- One step of a removal. -/
def step (store : Store σ T) (opener : Opener σ P) :
    Removal P → Work (Entry σ P) Empty (Removal P)
  | .finds => do
    let e ← Work.state
    if e.isRegistered then return .deletes
    else return .ended (.error (.connectionNotFound e.desk.handle.id))
  | .deletes => do
    let id := (← Work.state).desk.handle.id
    match ← (Entry.outward (store.delete none id)).attempt with
    | .ok _ => return .closes .releases
    | .error f => return .ended (.error f)
  | .closes c => do return follow (← Entry.atDesk (c.step opener))
  | .forgets => do
    Work.change fun e => { e with isRegistered := false }
    return .ended (.ok ())
  | .ended result => return .ended result

end Removal

/-- Take several steps, one after the other. -/
def steps {τ β : Type} (step : β → Work τ Empty β) : Nat → β → Work τ Empty β
  | 0, b => return b
  | n + 1, b => do steps step n (← step b)

/-! ### Alone -/

section Alone

variable {store : Store σ T} {opener : Opener σ P} {g g' : Gateway σ P} {h : Handle P} {id : String}
  {s : σ} {isTaken : Bool}

theorem steps_of_done {τ β : Type} {step : β → Work τ Empty β} {b b' : β} {t t' : τ}
    (h : step b t = (.done b', t')) (n : Nat) : steps step (n + 1) b t = steps step n b' t' :=
  Work.bind_of_done h

theorem Entry.outward_of_eq {ε : Type} {w : Work σ ε α} {o : Outcome ε α} {e : Entry σ P}
    (h : w e.desk.outside = (o, s)) :
    Entry.outward w e = (o, { e with desk := { e.desk with outside := s } }) := by
  simp only [Entry.outward, Entry.atDesk, Desk.outward, Work.within, h]

/-- Closing a handle lets go of its pool and closes it. -/
theorem Focus.close_done {f : Focus σ P}
    (hc : (Focus.close opener : Work _ Failure Unit) ⟨s, h⟩ = (.done (), f)) :
    f.handle = h.release ∧ (h.pool = none ∧ f.outside = s ∨
      ∃ p, h.pool = some p ∧ opener.close p s = (.done (), f.outside)) := by
  have hr : (Focus.retire opener h.pool : Work _ Failure Unit) ⟨s, h.release⟩ = (.done (), f) := hc
  cases hp : h.pool with
  | none =>
    rw [hp] at hr
    obtain ⟨-, rfl⟩ := Prod.mk.inj hr
    exact ⟨rfl, Or.inl ⟨rfl, rfl⟩⟩
  | some p =>
    rw [hp] at hr
    have hw : (Focus.outward (opener.close p).surely : Work _ Failure Unit) ⟨s, h.release⟩ =
        (.done (), f) := hr
    obtain ⟨s', hs, rfl⟩ := Work.within_eq_iff.mp hw
    refine ⟨rfl, Or.inr ⟨p, rfl, ?_⟩⟩
    rw [Work.surely, Work.report] at hs
    rcases hw : opener.close p s with ⟨_ | e | _, s''⟩
    · rw [hw] at hs
      obtain ⟨-, rfl⟩ := Prod.mk.inj hs
      rfl
    · exact e.elim
    · rw [hw] at hs
      cases hs

/-- What a caller comes to is what the removal goes on with. -/
theorem Removal.step_closes {c c' : Call P} {e : Entry σ P} {d : Desk σ P}
    (hc : c.step opener e.desk = (.done c', d)) :
    Removal.step store opener (.closes c) e = (.done (follow c'), { e with desk := d }) := by
  simp only [Removal.step, Work.bind_apply, Entry.atDesk, Work.within, hc]
  rfl

/-- Alone, a removal does what the registry does. -/
theorem Removal.steps_of_remove (hf : g.handle? id = some h)
    (hr : Gateway.remove store opener id g = (.done (), g')) :
    steps (Removal.step store opener) 5 .finds ⟨⟨g.outside, h, isTaken⟩, true⟩ =
      (.done (.ended (.ok ())), ⟨⟨g'.outside, h.release, isTaken⟩, false⟩) := by
  have hid : h.id = id := by simpa using List.find?_some hf
  have hfind : Gateway.find id g = (.done h, g) := by
    simp only [Gateway.find, Work.bind_apply, Work.state, hf]
    rfl
  rw [Gateway.remove, Work.bind_of_done hfind] at hr
  obtain ⟨⟨⟩, g₁, hout, hrest⟩ := Work.bind_eq_done_iff.mp hr
  obtain ⟨s₁, hd, rfl⟩ := Work.within_eq_iff.mp hout
  obtain ⟨⟨⟩, g₂, hon, hlast⟩ := Work.bind_eq_done_iff.mp hrest
  obtain ⟨f, hc, rfl⟩ := Work.within_eq_iff.mp hon
  obtain ⟨-, rfl⟩ := Prod.mk.inj hlast
  have hdeletes : Removal.step store opener .deletes ⟨⟨g.outside, h, isTaken⟩, true⟩ =
      (.done (.closes .releases), ⟨⟨s₁, h, isTaken⟩, true⟩) := by
    have ho : Entry.outward (store.delete none h.id) ⟨⟨g.outside, h, isTaken⟩, true⟩ = _ :=
      Entry.outward_of_eq (hid ▸ hd)
    simp only [Removal.step, Work.bind_apply, Work.state, Work.attempt, ho]
    rfl
  have hreleases : (Call.releases : Call P).step opener ⟨s₁, h, isTaken⟩ =
      (.done (.closing h.pool), ⟨s₁, h.release, isTaken⟩) := rfl
  rw [steps_of_done rfl, steps_of_done hdeletes, steps_of_done (Removal.step_closes hreleases)]
  obtain ⟨-, ⟨hp, rfl⟩ | ⟨p, hp, hclose⟩⟩ := Focus.close_done hc
  · rw [hp]
    rfl
  · have hretires : (Call.retires p).step opener ⟨s₁, h.release, isTaken⟩ =
        (.done (.ended (.ok none)), ⟨f.outside, h.release, isTaken⟩) := by
      simp only [Call.step, Work.bind_apply, Desk.outward, Work.within, hclose]
      rfl
    rw [hp]
    exact (steps_of_done (Removal.step_closes hretires) 1).trans rfl

/-- What a caller comes to is what the request goes on with. -/
theorem Request.step_calls {ask : P → Work σ Failure α} {c c' : Call P} {e : Entry σ P}
    {d : Desk σ P} (hc : c.step opener e.desk = (.done c', d)) :
    Request.step opener ask (.calls c) e = (.done (follow c'), { e with desk := d }) := by
  simp only [Request.step, Work.bind_apply, Entry.atDesk, Work.within, hc]
  rfl

theorem Request.steps_ended {ask : P → Work σ Failure α} (r : Except Failure α) (n : Nat)
    (e : Entry σ P) : steps (Request.step opener ask) n (.ended r) e = (.done (.ended r), e) := by
  induction n with
  | zero => rfl
  | succ n ih => rw [steps_of_done rfl, ih]

/-- A request with a pool ends when the pool has answered. -/
theorem Request.steps_asks {ask : P → Work σ Failure α} {r : Except Failure α} {p : P}
    {e : Entry σ P} (ha : ((ask p).attempt : Work σ Empty _) e.desk.outside = (.done r, s))
    (n : Nat) : steps (Request.step opener ask) (n + 1) (.asks p) e =
      (.done (.ended r), { e with desk := { e.desk with outside := s } }) := by
  rw [steps_of_done _ n, Request.steps_ended]
  rcases ho : ask p e.desk.outside with ⟨o, s'⟩
  simp only [Work.attempt, ho] at ha
  simp only [Request.step, Work.bind_apply, Work.attempt, Entry.outward_of_eq ho]
  cases o <;> simp_all <;> rfl

theorem Focus.ensureOpen_of_pool {p : P} (hp : h.pool = some p) :
    Focus.ensureOpen opener ⟨s, h⟩ = (.done p, ⟨s, h⟩) := by
  have hh : (Focus.handleNow : Work _ Failure _) ⟨s, h⟩ = (.done h, ⟨s, h⟩) := rfl
  rw [Focus.ensureOpen, Work.bind_of_done hh, hp]
  rfl

/-- A closed handle is opened for its details. -/
theorem Focus.ensureOpen_of_none (hp : h.pool = none) : Focus.ensureOpen opener ⟨s, h⟩ =
    match opener.connect h.info s with
    | (.done p, s') => (.done p, ⟨s', { h with pool := some p }⟩)
    | (.failed e, s') => (.failed e, ⟨s', h⟩)
    | (.stalled, s') => (.stalled, ⟨s', h⟩) := by
  have hh : (Focus.handleNow : Work _ Failure _) ⟨s, h⟩ = (.done h, ⟨s, h⟩) := rfl
  rw [Focus.ensureOpen, Work.bind_of_done hh, hp]
  rcases hc : opener.connect h.info s with ⟨p | e | _, s'⟩
  · have ho : Focus.outward (opener.connect h.info) ⟨s, h⟩ = (.done p, ⟨s', h⟩) :=
      Work.within_eq_iff.mpr ⟨s', hc, rfl⟩
    have ha : (h.arrive h.info p).2 = { h with pool := some p } := by
      rw [Handle.arrive, hp, if_pos rfl]
    show _ = (Outcome.done p, (⟨s', { h with pool := some p }⟩ : Focus σ P))
    rw [← ha]
    exact Work.bind_of_done ho
  · have ho : Focus.outward (opener.connect h.info) ⟨s, h⟩ = (.failed e, ⟨s', h⟩) :=
      Work.within_eq_iff.mpr ⟨s', hc, rfl⟩
    exact Work.bind_of_failed ho
  · have ho : Focus.outward (opener.connect h.info) ⟨s, h⟩ = (.stalled, ⟨s', h⟩) :=
      Work.within_eq_iff.mpr ⟨s', hc, rfl⟩
    exact Work.bind_eq_stalled_iff.mpr (Or.inl ho)

/-- Opening a closed handle, step by step. -/
theorem Call.step_opens {info : ConnectionInfo} {d : Desk σ P} :
    (Call.opens info).step opener d = match opener.connect info d.outside with
      | (.done p, s') => (.done (.brings info p), { d with outside := s' })
      | (.failed e, s') => (.done (.ended (.error e)), { d with outside := s', isTaken := false })
      | (.stalled, s') => (.stalled, { d with outside := s' }) := by
  rcases hc : opener.connect info d.outside with ⟨p | e | _, s'⟩ <;>
    simp only [Call.step, Work.bind_apply, Work.attempt, Desk.outward, Work.within, hc] <;> rfl

/-- Alone, a request asks the pool of the handle, opened if there is none. -/
theorem Request.steps_of_ensureOpen {ask : P → Work σ Failure α} {r : Except Failure α}
    {f : Focus σ P} (hr : ((do Focus.outward (ask (← Focus.ensureOpen opener))).attempt :
      Work (Focus σ P) Empty _) ⟨s, h⟩ = (.done r, f)) :
    steps (Request.step opener ask) 7 .arrives ⟨⟨s, h, false⟩, true⟩ =
      (.done (.ended r), ⟨⟨f.outside, f.handle, false⟩, true⟩) := by
  have hcall (r' : Request P α) {c c' : Call P} {d d' : Desk σ P} {n : Nat}
      (hc : c.step opener d = (.done c', d')) (hf : follow c' = r') :
      steps (Request.step opener ask) (n + 1) (.calls c) ⟨d, true⟩ =
        steps (Request.step opener ask) n r' ⟨d', true⟩ :=
    hf ▸ steps_of_done (Request.step_calls hc) n
  have hasks {p : P} {s' : σ} {h' : Handle P} (n : Nat)
      (hw : Focus.ensureOpen opener ⟨s, h⟩ = (.done p, ⟨s', h'⟩)) :
      steps (Request.step opener ask) (n + 1) (.asks p) ⟨⟨s', h', false⟩, true⟩ =
        (.done (.ended r), ⟨⟨f.outside, f.handle, false⟩, true⟩) := by
    rw [Work.attempt_bind_of_done hw, Focus.outward, Work.attempt_within] at hr
    obtain ⟨s₁, ha, rfl⟩ := Work.within_eq_iff.mp hr
    exact Request.steps_asks ha n
  have hlook : (Call.asks : Call P).step opener ⟨s, h, false⟩ = _ := Call.step_asks _
  rw [steps_of_done rfl]
  cases hp : h.pool with
  | some p =>
    rw [hp] at hlook
    rw [hcall (.asks p) hlook rfl]
    exact hasks _ (Focus.ensureOpen_of_pool hp)
  | none =>
    have hw : Focus.ensureOpen opener ⟨s, h⟩ = _ := Focus.ensureOpen_of_none hp
    have hturn : (Call.looks : Call P).step opener ⟨s, h, true⟩ = _ := Call.step_looks _
    have hopen : (Call.opens h.info).step opener ⟨s, h, true⟩ = _ := Call.step_opens
    rw [hp] at hlook hturn
    rw [hcall (.calls .waits) hlook rfl, hcall (.calls .looks) (Call.step_waits _) rfl,
      hcall (.calls (.opens h.info)) hturn rfl]
    rcases hc : opener.connect h.info s with ⟨p | e | _, s'⟩ <;> rw [hc] at hw <;>
      simp only [hc] at hopen
    · have hkeep : (Call.brings h.info p).step opener ⟨s', h, true⟩ = _ := Call.step_brings ..
      simp only [hp, if_pos] at hkeep
      rw [hcall (.calls (.brings h.info p)) hopen rfl, hcall (.asks p) hkeep rfl]
      exact hasks _ hw
    · rw [Work.attempt_bind_of_failed hw] at hr
      obtain ⟨rfl, rfl⟩ := Work.done_inj hr
      rw [hcall (.ended (.error e)) hopen rfl]
      exact Request.steps_ended _ _ _
    · have hs : ((do Focus.outward (ask (← Focus.ensureOpen opener))).attempt :
          Work (Focus σ P) Empty _) ⟨s, h⟩ = (.stalled, ⟨s', h⟩) :=
        Work.attempt_eq_stalled_iff.mpr (Work.bind_eq_stalled_iff.mpr (Or.inl hw))
      rw [hs] at hr
      nomatch (Prod.mk.inj hr).1

end Alone

end SqlGateway
