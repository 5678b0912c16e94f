import SqlGateway.Proofs.Registry.Stages

/-! Mutations that are abandoned. Whoever waits for a mutation may go away, and then it stays where
    it is; a transaction that is open is rolled back. The record is changed first and the handle
    after it, and nothing brings them together again:

        stages                                    record    handle
        opens, undoes                             old       old
        finds, begins ─▶ connects, rollsBack      old       old
        inserts, commits, deletes                 either    old
        publishes, installs, releases ─▶ forgets  new       old        ✗
        retires (of an edit)                      new       new

    The rest of the registry and of the store agree all the while. -/

namespace SqlGateway

variable {σ P T : Type}

open Gateway (outward find focus retire Same)

/-- Others at work while a mutation is held up. They may use pools, but another mutation has to wait
    for this one. -/
structure Gateway.Aside (v : View σ P T) (g g' : Gateway σ P) : Prop where
  same : Same v g g'
  staged : v.staged g'.outside = v.staged g.outside

/-- How a mutation gets to a stage, and the registry to a state. -/
inductive Course (v : View σ P T) (p : Protocol σ P T) (g : Gateway σ P) :
    p.Stage → Gateway σ P → Prop
  | start : Course v p g p.start g
  | step {st st' g₁ g₂} : Course v p g st g₁ → p.step st g₁ = (.done st', g₂) → Course v p g st' g₂
  | aside {st g₁ g₂} : Course v p g st g₁ → Gateway.Aside v g₁ g₂ → Course v p g st g₂

/-- Roll back the transaction that is open, if it can be done. -/
def Protocol.letGo (p : Protocol σ P T) (store : Store σ T) (st : p.Stage) :
    Work (Gateway σ P) Empty Unit :=
  match p.pending st with
  | some tx => do let _ ← (outward (store.rollback tx)).attempt
  | none => return ()

/-- What a mutation leaves behind that is abandoned at a stage: before its step there, or in the
    middle of it, when the call outside has not come back. -/
inductive Abandoned (store : Store σ T) (v : View σ P T) (p : Protocol σ P T) (g : Gateway σ P)
    (st : p.Stage) : Gateway σ P → Prop
  | waits {g'} : Course v p g st g' → Abandoned store v p g st (p.letGo store st g').2
  | stalls {g₁ g₂} : Course v p g st g₁ → p.step st g₁ = (.stalled, g₂) →
    Abandoned store v p g st (p.letGo store st g₂).2

/-- A write that did not come back was either done or not. -/
structure Store.Settles (store : Store σ T) (v : View σ P T) : Prop where
  insert_stalled : ∀ {s s' id info}, store.insert none id info s = (.stalled, s') →
    v.records s' = v.records s ∨ v.records s' = Function.update (v.records s) id (some info)
  delete_stalled : ∀ {s s' id}, store.delete none id s = (.stalled, s') →
    v.records s' = v.records s ∨ v.records s' = Function.update (v.records s) id none
  commit_stalled : ∀ {s s' tx}, store.commit tx s = (.stalled, s') →
    v.records s' = v.records s ∨ v.records s' = v.staged s tx

/-! ### Records and handles -/

/-- What the mutation makes of records, or of what is registered. -/
def Mutation.applied (m : Mutation) (r : String → Option ConnectionInfo) :
    String → Option ConnectionInfo := Function.update r m.id m.result

/-- What the records are, and what is registered. -/
structure Gateway.Standing (v : View σ P T) (records registered : String → Option ConnectionInfo)
    (g : Gateway σ P) : Prop where
  distinct : Distinct g.handles
  records : v.records g.outside = records
  registered : g.registered = registered

/-- Where a mutation of records that agree with the registry stands in a phase. -/
def Phase.Standing (v : View σ P T) (m : Mutation) (r : String → Option ConnectionInfo) :
    Phase → Gateway σ P → Prop
  | .before | .committing => Gateway.Standing v r r
  | .between => Gateway.Standing v (m.applied r) r
  | .after => Gateway.Standing v (m.applied r) (m.applied r)

/-- Where a mutation is left in a phase. -/
def Phase.Left (v : View σ P T) (m : Mutation) (r : String → Option ConnectionInfo) (φ : Phase)
    (g : Gateway σ P) : Prop :=
  φ.Standing v m r g ∨ φ = .committing ∧ Phase.between.Standing v m r g

namespace Gateway.Standing

variable {store : Store σ T} {opener : Opener σ P} {v : View σ P T} {g g' : Gateway σ P} {s : σ}
  {records records' registered : String → Option ConnectionInfo}

theorem same (h : Standing v records registered g) (hm : Same v g g') :
    Standing v records registered g' where
  distinct := by
    rw [Distinct, hm.ids]
    exact h.distinct
  records := hm.records.trans h.records
  registered := hm.details.trans h.registered

theorem outward (h : Standing v records registered g) (hr : v.records s = records') :
    Standing v records' registered ⟨s, g.handles⟩ := ⟨h.distinct, hr, h.registered⟩

theorem quiet (h : Standing v records registered g) (hq : v.Quiet g.outside s) :
    Standing v records registered ⟨s, g.handles⟩ := h.outward (hq.1.trans h.records)

theorem agrees_iff (h : Standing v records registered g) :
    Agrees v g ↔ registered = records := by
  constructor
  · intro ha
    rw [← h.records, ← h.registered]
    exact ha.registered
  · intro he
    exact ⟨h.distinct, by rw [h.records, h.registered, he]⟩

/-- What is registered under an identifier has a handle. -/
theorem lookup_of_ne (h : Standing v records registered g) {id : String}
    (hn : registered id ≠ none) : ∃ old, lookup g.handles id = some old := by
  rw [← h.registered] at hn
  exact Option.ne_none_iff_exists'.mp (Option.map_eq_none_iff.not.mp hn)

end Gateway.Standing

namespace Phase

variable {v : View σ P T} {m : Mutation} {r : String → Option ConnectionInfo} {g g' : Gateway σ P}
  {φ : Phase}

theorem Standing.same (h : φ.Standing v m r g) (hm : Same v g g') : φ.Standing v m r g' := by
  cases φ <;> exact Gateway.Standing.same h hm

theorem Left.same (h : φ.Left v m r g) (hm : Same v g g') : φ.Left v m r g' :=
  h.imp (·.same hm) fun h => ⟨h.1, h.2.same hm⟩

/-- A write that did not come back is done or not. -/
theorem left_of_write {s : σ} (h : Gateway.Standing v r r g)
    (hw : v.records s = r ∨ v.records s = m.applied r) :
    Phase.committing.Left v m r ⟨s, g.handles⟩ :=
  hw.imp h.outward fun hr => ⟨rfl, h.outward hr⟩

end Phase

/-! ### Stages -/

/-- An invariant of the stages of a mutation. -/
structure Protocol.Sound (p : Protocol σ P T) (v : View σ P T) (m : Mutation)
    (r : String → Option ConnectionInfo) (Inv : p.Stage → Gateway σ P → Prop) : Prop where
  standing : ∀ {st g}, Inv st g → (p.phase st).Standing v m r g
  aside : ∀ {st g g'}, Inv st g → Gateway.Aside v g g' → Inv st g'
  step : ∀ {st st' g g'}, Inv st g → p.step st g = (.done st', g') → Inv st' g'
  stalled : ∀ {st g g'}, Inv st g → p.step st g = (.stalled, g') → (p.phase st).Left v m r g'

variable {store : Store σ T} {opener : Opener σ P} {v : View σ P T} {g g' : Gateway σ P}
  {m : Mutation} {r : String → Option ConnectionInfo}

section Run

variable {p : Protocol σ P T} {Inv : p.Stage → Gateway σ P → Prop} {st : p.Stage}

theorem Course.invariant (hp : p.Sound v m r Inv) (hg : Inv p.start g) (h : Course v p g st g') :
    Inv st g' := by
  induction h with
  | start => exact hg
  | step _ h ih => exact hp.step ih h
  | aside _ h ih => exact hp.aside ih h

theorem Protocol.letGo_same (hs : store.IsAtomic v) : (p.letGo store st).Moves (Same v) := by
  rw [letGo]
  split
  · next tx _ =>
    have hm : (outward (store.rollback tx) : Work (Gateway σ P) Failure Unit).Moves (Same v) :=
      (hs.rollback tx).within fun g s hq => ⟨rfl, rfl, hq.1⟩
    exact hm.attempt.bind Same.trans fun _ => Same.refl
  · exact Same.refl

theorem Abandoned.left (hs : store.IsAtomic v) (hp : p.Sound v m r Inv) (hg : Inv p.start g)
    (h : Abandoned store v p g st g') : (p.phase st).Left v m r g' := by
  cases h with
  | waits hc =>
    have hl : (p.phase st).Left v m r _ := Or.inl (hp.standing (hc.invariant hp hg))
    exact hl.same (Protocol.letGo_same hs _)
  | stalls hc hst => exact (hp.stalled (hc.invariant hp hg) hst).same (Protocol.letGo_same hs _)

end Run

namespace Gateway

variable {records names : String → Option ConnectionInfo} {id : String}

theorem retire_same {ε : Type} (ho : opener.IsApart v) (old : Option P) :
    (retire opener old : Work (Gateway σ P) ε Unit).Moves (Same v) := by
  cases old with
  | none => exact Same.refl
  | some p => exact ((ho.close_records p).report _).within fun g s hs => ⟨rfl, rfl, hs⟩

theorem registered_of_lookup {old : Handle P} (hl : lookup g.handles id = some old) :
    g.registered id = some old.info := by
  rw [registered, details, hl]
  rfl

theorem Standing.ne_of_find (h : Standing v records names g) {old : Handle P}
    (hf : find id g = (.done old, g')) : g' = g ∧ names id ≠ none := by
  obtain ⟨hl, rfl⟩ := find_eq_done_iff.mp hf
  rw [← h.registered, registered_of_lookup hl]
  exact ⟨rfl, Option.some_ne_none _⟩

/-- The handle of an identifier that is registered can be exchanged. -/
theorem focus_exchange (change : Handle P → Handle P) (hc : ∀ h, (change h).id = h.id)
    (h : Standing v records names g) (hn : names id ≠ none) :
    ∃ old, names id = some old.info ∧
      focus id (Focus.exchange change) g =
        (.done old.pool, ⟨g.outside, replace (change old) g.handles⟩) ∧
      Standing v records (Function.update names id (some (change old).info))
        ⟨g.outside, replace (change old) g.handles⟩ := by
  obtain ⟨old, hl⟩ := h.lookup_of_ne hn
  have hi : old.id = id := id_of_lookup hl
  refine ⟨old, ?_, ?_, h.distinct.replace _, h.records, ?_⟩
  · rw [← h.registered]
    exact registered_of_lookup hl
  · rw [focus_of_lookup hl]
    exact onHandle_exchange change hc old
  · have hl' : lookup g.handles (change old).id = some old := by rw [hc, hi, hl]
    rw [registered, details_replace hl', hc, hi, ← h.registered]
    rfl

end Gateway

namespace Adding

variable {id : String} {info : ConnectionInfo} {st st' : Adding P}

/-- What the stages of an addition keep to. -/
def Inv (v : View σ P T) (id : String) (info : ConnectionInfo)
    (r : String → Option ConnectionInfo) (st : Adding P) : Gateway σ P → Prop :=
  st.phase.Standing v (.add id info) r

theorem Inv.step (hs : store.IsAtomic v) (ho : opener.IsApart v) (h : st.Inv v id info r g)
    (hst : st.step store opener id info g = (.done st', g')) : st'.Inv v id info r g' := by
  cases st with
  | opens =>
    obtain ⟨s, rfl, ⟨_, hw, rfl⟩ | ⟨_, hw, rfl⟩⟩ := Gateway.proceed_outward_done hst <;>
      exact Gateway.Standing.quiet h ((ho.connect info).apply hw)
  | inserts pool =>
    obtain ⟨s, rfl, ⟨_, hw, rfl⟩ | ⟨_, hw, rfl⟩⟩ := Gateway.proceed_outward_done hst
    · refine Gateway.Standing.outward h ?_
      rw [hs.insert_done hw, h.records]
      rfl
    · exact Gateway.Standing.quiet h (hs.insert_failed hw)
  | undoes pool f =>
    obtain ⟨_, g₁, hw, hst⟩ := Work.bind_eq_done_iff.mp hst
    obtain ⟨rfl, rfl⟩ := Work.pure_eq_done_iff.mp hst
    obtain ⟨s, hs, rfl⟩ := Gateway.outward_eq_iff.mp hw
    exact Gateway.Standing.outward h (((ho.close_records pool).apply hs).trans h.records)
  | publishes pool =>
    obtain ⟨_, g₁, hw, hst⟩ := Work.bind_eq_done_iff.mp hst
    obtain ⟨rfl, rfl⟩ := Work.pure_eq_done_iff.mp hst
    obtain ⟨-, rfl⟩ := Prod.mk.inj hw
    refine ⟨h.distinct.publish _, h.records, ?_⟩
    rw [Gateway.registered, details_publish]
    exact congrArg (Function.update · id (some info)) h.registered
  | ended result =>
    obtain ⟨rfl, rfl⟩ := Work.pure_eq_done_iff.mp hst
    exact h

theorem Inv.left (ho : opener.IsApart v) (hc : store.Settles v) (h : st.Inv v id info r g)
    (hst : st.step store opener id info g = (.stalled, g')) :
    st.phase.Left v (.add id info) r g' := by
  cases st with
  | opens =>
    obtain ⟨s, rfl, hw⟩ := Gateway.proceed_outward_stalled hst
    exact Or.inl (Gateway.Standing.quiet h ((ho.connect info).apply hw))
  | inserts pool =>
    obtain ⟨s, rfl, hw⟩ := Gateway.proceed_outward_stalled hst
    have hr := hc.insert_stalled hw
    rw [h.records] at hr
    exact Phase.left_of_write h hr
  | undoes pool f =>
    rcases Work.bind_eq_stalled_iff.mp hst with hw | ⟨_, g₁, -, hst⟩
    · obtain ⟨s, hs, rfl⟩ := Gateway.outward_eq_iff.mp hw
      have hr := (ho.close_records pool).apply hs
      exact Or.inl (Gateway.Standing.outward h (hr.trans h.records))
    · nomatch hst
  | publishes pool => nomatch hst
  | ended result => nomatch hst

theorem sound (hs : store.IsAtomic v) (ho : opener.IsApart v) (hc : store.Settles v) :
    (protocol store opener id info).Sound v (.add id info) r (Inv v id info r) where
  standing h := h
  aside h ha := h.same ha.same
  step h hst := Inv.step hs ho h hst
  stalled h hst := Inv.left ho hc h hst

end Adding

namespace Editing

variable {id : String} {info : ConnectionInfo} {st st' : Editing P T}

/-- What is known at the stages of an edit: that there is a handle, and what the transaction would
    leave behind. -/
def Known (v : View σ P T) (id : String) (info : ConnectionInfo)
    (r : String → Option ConnectionInfo) : Editing P T → Gateway σ P → Prop
  | .finds, _ | .ended _, _ => True
  | .updates tx, g => r id ≠ none ∧ v.staged g.outside tx = r
  | .connects tx, g | .commits tx _, g =>
    r id ≠ none ∧ v.staged g.outside tx = Function.update r id (some info)
  | _, _ => r id ≠ none

theorem Known.aside (h : st.Known v id info r g) (ha : Gateway.Aside v g g') :
    st.Known v id info r g' := by
  cases st with
  | updates tx | connects tx | commits tx pool => exact ⟨h.1, (congrFun ha.staged tx).trans h.2⟩
  | finds | begins | rollsBack tx f | installs pool | retires old | ended result => exact h

/-- What the stages of an edit keep to. -/
structure Inv (v : View σ P T) (id : String) (info : ConnectionInfo)
    (r : String → Option ConnectionInfo) (st : Editing P T) (g : Gateway σ P) : Prop where
  standing : st.phase.Standing v (.edit id info) r g
  known : st.Known v id info r g

theorem Inv.step (hs : store.IsAtomic v) (ho : opener.IsApart v) (hi : st.Inv v id info r g)
    (hst : st.step store opener id info g = (.done st', g')) : st'.Inv v id info r g' := by
  obtain ⟨h, hk⟩ := hi
  cases st with
  | finds =>
    obtain ⟨old, hf, rfl⟩ | ⟨e, hf, rfl⟩ := Work.proceed_eq_done_iff.mp hst
    · obtain ⟨rfl, hn⟩ := Gateway.Standing.ne_of_find h hf
      exact ⟨h, hn⟩
    · rw [Gateway.find_failed hf]
      exact ⟨h, trivial⟩
  | begins =>
    obtain ⟨s, rfl, ⟨tx, hw, rfl⟩ | ⟨e, hw, rfl⟩⟩ := Gateway.proceed_outward_done hst
    · exact ⟨Gateway.Standing.quiet h (hs.start.apply hw), hk, (hs.start_done hw).trans h.records⟩
    · exact ⟨Gateway.Standing.quiet h (hs.start.apply hw), trivial⟩
  | updates tx =>
    obtain ⟨s, rfl, ⟨_, hw, rfl⟩ | ⟨e, hw, rfl⟩⟩ := Gateway.proceed_outward_done hst
    · refine ⟨Gateway.Standing.quiet h ((hs.update tx id info).apply hw), hk.1, ?_⟩
      rw [hs.update_done hw, hk.2]
    · exact ⟨Gateway.Standing.quiet h ((hs.update tx id info).apply hw), hk.1⟩
  | connects tx =>
    obtain ⟨s, rfl, ⟨pool, hw, rfl⟩ | ⟨e, hw, rfl⟩⟩ := Gateway.proceed_outward_done hst
    · have hstaged := congrFun ((ho.connect_staged info).apply hw) tx
      exact ⟨Gateway.Standing.quiet h ((ho.connect info).apply hw), hk.1, hstaged.trans hk.2⟩
    · exact ⟨Gateway.Standing.quiet h ((ho.connect info).apply hw), hk.1⟩
  | commits tx pool =>
    obtain ⟨s, rfl, ⟨_, hw, rfl⟩ | ⟨e, hw, rfl⟩⟩ := Gateway.proceed_outward_done hst
    · exact ⟨Gateway.Standing.outward h ((hs.commit_done hw).trans hk.2), hk.1⟩
    · exact ⟨Gateway.Standing.quiet h (hs.commit_failed hw), trivial⟩
  | rollsBack tx f =>
    obtain ⟨s, rfl, ⟨_, hw, rfl⟩ | ⟨e, hw, rfl⟩⟩ := Gateway.proceed_outward_done hst <;>
      exact ⟨Gateway.Standing.quiet h ((hs.rollback tx).apply hw), trivial⟩
  | installs pool =>
    obtain ⟨old, -, hf, hst'⟩ := Gateway.focus_exchange (fun h => h.install info pool)
      (fun _ => rfl) h hk
    obtain ⟨_, hf', rfl⟩ | ⟨_, hf', rfl⟩ := Work.proceed_eq_done_iff.mp hst <;> rw [hf] at hf'
    · obtain ⟨rfl, rfl⟩ := Work.done_inj hf'
      exact ⟨hst', hk⟩
    · nomatch hf'
  | retires old =>
    obtain ⟨_, g₁, hw, hst⟩ := Work.bind_eq_done_iff.mp hst
    obtain ⟨rfl, rfl⟩ := Work.pure_eq_done_iff.mp hst
    exact ⟨Gateway.Standing.same h ((Gateway.retire_same ho old).apply hw), trivial⟩
  | ended result =>
    obtain ⟨rfl, rfl⟩ := Work.pure_eq_done_iff.mp hst
    exact ⟨h, hk⟩

theorem Inv.left (hs : store.IsAtomic v) (ho : opener.IsApart v) (hc : store.Settles v)
    (hi : st.Inv v id info r g) (hst : st.step store opener id info g = (.stalled, g')) :
    st.phase.Left v (.edit id info) r g' := by
  obtain ⟨h, hk⟩ := hi
  cases st with
  | finds => exact absurd (Work.proceed_eq_stalled_iff.mp hst) Gateway.find_ne_stalled
  | begins =>
    obtain ⟨s, rfl, hw⟩ := Gateway.proceed_outward_stalled hst
    exact Or.inl (Gateway.Standing.quiet h (hs.start.apply hw))
  | updates tx =>
    obtain ⟨s, rfl, hw⟩ := Gateway.proceed_outward_stalled hst
    exact Or.inl (Gateway.Standing.quiet h ((hs.update tx id info).apply hw))
  | connects tx =>
    obtain ⟨s, rfl, hw⟩ := Gateway.proceed_outward_stalled hst
    exact Or.inl (Gateway.Standing.quiet h ((ho.connect info).apply hw))
  | commits tx pool =>
    obtain ⟨s, rfl, hw⟩ := Gateway.proceed_outward_stalled hst
    have hr := hc.commit_stalled hw
    rw [h.records, hk.2] at hr
    exact Phase.left_of_write h hr
  | rollsBack tx f =>
    obtain ⟨s, rfl, hw⟩ := Gateway.proceed_outward_stalled hst
    exact Or.inl (Gateway.Standing.quiet h ((hs.rollback tx).apply hw))
  | installs pool =>
    obtain ⟨old, -, hf, -⟩ := Gateway.focus_exchange (fun h => h.install info pool)
      (fun _ => rfl) h hk
    have hst := Work.proceed_eq_stalled_iff.mp hst
    rw [hf] at hst
    nomatch hst
  | retires old =>
    rcases Work.bind_eq_stalled_iff.mp hst with hw | ⟨_, g₁, -, hst⟩
    · exact Or.inl (Gateway.Standing.same h ((Gateway.retire_same ho old).apply hw))
    · nomatch hst
  | ended result => nomatch hst

theorem sound (hs : store.IsAtomic v) (ho : opener.IsApart v) (hc : store.Settles v) :
    (protocol store opener id info).Sound v (.edit id info) r (Inv v id info r) where
  standing h := h.standing
  aside h ha := ⟨h.standing.same ha.same, h.known.aside ha⟩
  step h hst := h.step hs ho hst
  stalled h hst := h.left hs ho hc hst

end Editing

namespace Removing

variable {id : String} {st st' : Removing P}

/-- What is known at the stages of a removal: that there is a handle. -/
def Known (id : String) (r : String → Option ConnectionInfo) : Removing P → Prop
  | .finds | .ended _ => True
  | _ => r id ≠ none

/-- What the stages of a removal keep to. -/
structure Inv (v : View σ P T) (id : String) (r : String → Option ConnectionInfo)
    (st : Removing P) (g : Gateway σ P) : Prop where
  standing : st.phase.Standing v (.remove id) r g
  known : st.Known id r

theorem Inv.step (hs : store.IsAtomic v) (ho : opener.IsApart v) (hi : st.Inv v id r g)
    (hst : st.step store opener id g = (.done st', g')) : st'.Inv v id r g' := by
  obtain ⟨h, hk⟩ := hi
  cases st with
  | finds =>
    obtain ⟨old, hf, rfl⟩ | ⟨e, hf, rfl⟩ := Work.proceed_eq_done_iff.mp hst
    · obtain ⟨rfl, hn⟩ := Gateway.Standing.ne_of_find h hf
      exact ⟨h, hn⟩
    · rw [Gateway.find_failed hf]
      exact ⟨h, trivial⟩
  | deletes =>
    obtain ⟨s, rfl, ⟨_, hw, rfl⟩ | ⟨e, hw, rfl⟩⟩ := Gateway.proceed_outward_done hst
    · refine ⟨Gateway.Standing.outward h ?_, hk⟩
      rw [hs.delete_done hw, h.records]
      rfl
    · exact ⟨Gateway.Standing.quiet h (hs.delete_failed hw), trivial⟩
  | releases =>
    obtain ⟨old, hr, hf, hst'⟩ := Gateway.focus_exchange Handle.release (fun _ => rfl) h hk
    obtain ⟨_, hf', rfl⟩ | ⟨_, hf', rfl⟩ := Work.proceed_eq_done_iff.mp hst <;> rw [hf] at hf'
    · obtain ⟨rfl, rfl⟩ := Work.done_inj hf'
      -- the handle that is let go of keeps its details
      have hu : Function.update r id (some old.release.info) = r :=
        Function.update_eq_self_iff.mpr hr.symm
      rw [hu] at hst'
      exact ⟨hst', hk⟩
    · nomatch hf'
  | retires old =>
    obtain ⟨_, g₁, hw, hst⟩ := Work.bind_eq_done_iff.mp hst
    obtain ⟨rfl, rfl⟩ := Work.pure_eq_done_iff.mp hst
    exact ⟨Gateway.Standing.same h ((Gateway.retire_same ho old).apply hw), hk⟩
  | forgets =>
    obtain ⟨_, g₁, hw, hst⟩ := Work.bind_eq_done_iff.mp hst
    obtain ⟨rfl, rfl⟩ := Work.pure_eq_done_iff.mp hst
    obtain ⟨-, rfl⟩ := Prod.mk.inj hw
    refine ⟨⟨h.distinct.forget _, h.records, ?_⟩, trivial⟩
    rw [Gateway.registered, details_forget]
    exact congrArg (Function.update · id none) h.registered
  | ended result =>
    obtain ⟨rfl, rfl⟩ := Work.pure_eq_done_iff.mp hst
    exact ⟨h, hk⟩

theorem Inv.left (ho : opener.IsApart v) (hc : store.Settles v) (hi : st.Inv v id r g)
    (hst : st.step store opener id g = (.stalled, g')) : st.phase.Left v (.remove id) r g' := by
  obtain ⟨h, hk⟩ := hi
  cases st with
  | finds => exact absurd (Work.proceed_eq_stalled_iff.mp hst) Gateway.find_ne_stalled
  | deletes =>
    obtain ⟨s, rfl, hw⟩ := Gateway.proceed_outward_stalled hst
    have hr := hc.delete_stalled hw
    rw [h.records] at hr
    exact Phase.left_of_write h hr
  | releases =>
    obtain ⟨old, -, hf, -⟩ := Gateway.focus_exchange Handle.release (fun _ => rfl) h hk
    have hst := Work.proceed_eq_stalled_iff.mp hst
    rw [hf] at hst
    nomatch hst
  | retires old =>
    rcases Work.bind_eq_stalled_iff.mp hst with hw | ⟨_, g₁, -, hst⟩
    · exact Or.inl (Gateway.Standing.same h ((Gateway.retire_same ho old).apply hw))
    · nomatch hst
  | forgets => nomatch hst
  | ended result => nomatch hst

theorem sound (hs : store.IsAtomic v) (ho : opener.IsApart v) (hc : store.Settles v) :
    (protocol store opener id).Sound v (.remove id) r (Inv v id r) where
  standing h := h.standing
  aside h ha := ⟨h.standing.same ha.same, h.known⟩
  step h hst := h.step hs ho hst
  stalled h hst := h.left ho hc hst

end Removing

/-! ### Agreement -/

/-- The record is changed, and what is registered is not. -/
structure Gateway.Torn (v : View σ P T) (m : Mutation) (g g' : Gateway σ P) : Prop where
  records : v.records g'.outside = m.applied (v.records g.outside)
  registered : g'.registered = g.registered
  /-- They agree all the same if there was nothing to change. -/
  agrees_iff : Agrees v g' ↔ g.registered m.id = m.result

theorem Mutation.applied_of_ne {id : String} (hi : id ≠ m.id) : m.applied r id = r id :=
  Function.update_of_ne hi ..

theorem Gateway.Standing.torn (hg : Agrees v g)
    (h : Standing v (m.applied g.registered) g.registered g') : Torn v m g g' where
  records := by rw [h.records, hg.registered]
  registered := h.registered
  agrees_iff := by
    rw [h.agrees_iff, eq_comm]
    exact Function.update_eq_self_iff.trans eq_comm

theorem Phase.Left.of_ne {φ : Phase} (h : φ.Left v m r g) {id : String} (hi : id ≠ m.id) :
    g.registered id = r id ∧ v.records g.outside id = r id := by
  have hb {a b : String → Option ConnectionInfo} (hg : Gateway.Standing v a b g) (ha : a id = r id)
      (hb : b id = r id) : g.registered id = r id ∧ v.records g.outside id = r id :=
    ⟨(congrFun hg.registered id).trans hb, (congrFun hg.records id).trans ha⟩
  have hm : m.applied r id = r id := Mutation.applied_of_ne hi
  rcases h with h | ⟨-, h⟩
  · cases φ with
    | before | committing => exact hb h rfl rfl
    | between => exact hb h hm rfl
    | after => exact hb h hm hm
  · exact hb h hm rfl

theorem Mutation.left (hs : store.IsAtomic v) (ho : opener.IsApart v) (hc : store.Settles v)
    (m : Mutation) (hg : Agrees v g) {st : (m.protocol store opener).Stage}
    (h : Abandoned store v (m.protocol store opener) g st g') :
    ((m.protocol store opener).phase st).Left v m g.registered g' := by
  have hstart : Gateway.Standing v g.registered g.registered g :=
    ⟨hg.distinct, hg.registered.symm, rfl⟩
  cases m with
  | add id info => exact h.left hs (Adding.sound hs ho hc) hstart
  | edit id info => exact h.left hs (Editing.sound hs ho hc) ⟨hstart, trivial⟩
  | remove id => exact h.left hs (Removing.sound hs ho hc) ⟨hstart, trivial⟩

/-- A mutation that is abandoned leaves all other connections as they were, and its own as it was or
    as it was to be; only between the change of the record and the change of the handle it leaves
    them torn. -/
theorem Mutation.abandoned_agreement (hs : store.IsAtomic v) (ho : opener.IsApart v)
    (hc : store.Settles v) (m : Mutation) (hg : Agrees v g)
    {st : (m.protocol store opener).Stage}
    (h : Abandoned store v (m.protocol store opener) g st g') :
    (∀ id, id ≠ m.id →
      g'.registered id = g.registered id ∧ v.records g'.outside id = g.registered id) ∧
    match (m.protocol store opener).phase st with
    | .before => Agrees v g' ∧ g'.registered = g.registered
    | .committing => Agrees v g' ∧ g'.registered = g.registered ∨ Gateway.Torn v m g g'
    | .between => Gateway.Torn v m g g'
    | .after => Agrees v g' ∧ g'.registered = m.applied g.registered := by
  have hl := m.left hs ho hc hg h
  refine ⟨fun id hi => hl.of_ne hi, ?_⟩
  generalize (m.protocol store opener).phase st = φ at hl
  cases φ with
  | before =>
    have h := hl.resolve_right (by simp)
    exact ⟨h.agrees_iff.mpr rfl, h.registered⟩
  | committing =>
    exact hl.imp (fun h => ⟨h.agrees_iff.mpr rfl, h.registered⟩) fun h => h.2.torn hg
  | between =>
    have h := hl.resolve_right (by simp)
    exact h.torn hg
  | after =>
    have h := hl.resolve_right (by simp)
    exact ⟨h.agrees_iff.mpr rfl, h.registered⟩

namespace Shelf

/-- Everything on a shelf comes back. -/
theorem store_settles : Shelf.store.Settles view where
  insert_stalled {s s' id info} h := by
    have hw : write records putRecords false id info s = (.stalled, s') := h
    obtain ⟨he, -⟩ | ⟨⟨e, he⟩, -⟩ := write_eq hw <;> nomatch he
  delete_stalled h := by simp [Shelf.store] at h
  commit_stalled h := by simp [Shelf.store] at h

/-- A shelf with one record. -/
def single : Shelf := { records := AList.singleton "a" (.file "a" "a.db") }

/-- A registry with one connection. -/
def one : Gateway Shelf Nat := (Gateway.load Shelf.store Shelf.opener ⟨single, []⟩).2

theorem one_agrees : Agrees view one := by
  have hl : Gateway.load Shelf.store Shelf.opener ⟨single, []⟩ = (.done 1, one) := rfl
  exact (Gateway.load_done store_isAtomic opener_isApart hl).1

end Shelf

/-- An edit that waits for its handle when it is abandoned. -/
theorem Mutation.abandoned_agreement_edit : ∃ g' : Gateway Shelf Nat,
    Abandoned Shelf.store Shelf.view
      ((Mutation.edit "a" (.file "a" "b.db")).protocol Shelf.store Shelf.opener) Shelf.one
      (Editing.installs 1) g' ∧
    g'.registered "a" = some (.file "a" "a.db") ∧
    Shelf.view.records g'.outside "a" = some (.file "a" "b.db") ∧ ¬ Agrees Shelf.view g' := by
  let p := (Mutation.edit "a" (.file "a" "b.db")).protocol Shelf.store Shelf.opener
  have hstart : Course Shelf.view p Shelf.one p.start Shelf.one := .start
  have hc := ((((hstart.step rfl).step rfl).step rfl).step rfl).step rfl
  have ha : Abandoned Shelf.store Shelf.view p Shelf.one (Editing.installs 1) _ := .waits hc
  obtain ⟨-, ht⟩ := Mutation.abandoned_agreement Shelf.store_isAtomic Shelf.opener_isApart
    Shelf.store_settles _ Shelf.one_agrees ha
  have hr : Shelf.one.registered "a" = some (.file "a" "a.db") := rfl
  have ht : Gateway.Torn Shelf.view (.edit "a" (.file "a" "b.db")) Shelf.one _ := ht
  refine ⟨_, ha, ?_, ?_, ?_⟩
  · rw [ht.registered, hr]
  · rw [ht.records]
    exact Function.update_self ..
  · rw [ht.agrees_iff, Mutation.id, hr]
    simp [Mutation.result, ConnectionInfo.file]

/-- Not every mutation can be abandoned anywhere: a removal that waits for the pool to be closed has
    deleted the record. -/
theorem Mutation.not_abandoned_anywhere : ¬ ∀ (m : Mutation) (g g' : Gateway Shelf Nat)
    (st : (m.protocol Shelf.store Shelf.opener).Stage), Agrees Shelf.view g →
    Abandoned Shelf.store Shelf.view (m.protocol Shelf.store Shelf.opener) g st g' →
    g'.registered = Shelf.view.records g'.outside := by
  intro h
  let p := (Mutation.remove "a").protocol Shelf.store Shelf.opener
  have hstart : Course Shelf.view p Shelf.one p.start Shelf.one := .start
  have hc := ((hstart.step rfl).step rfl).step rfl
  have hg := congrFun (h (.remove "a") Shelf.one _ _ Shelf.one_agrees (.waits hc)) "a"
  exact Option.some_ne_none _ hg

end SqlGateway
