import SqlGateway.Proofs.Registry.Store

/-! What a mutation of the registry comes to. Each one works outside first, where it can fail, and
    touches the handles when nothing can fail any more:

        add       connect ▸ insert          │ publish
        edit      update ▸ connect ▸ commit │ install
        remove    delete                    │ close ▸ forget

    Left of the line a failure leaves records and handles as they were; what is done crosses it. -/

namespace SqlGateway

variable {σ P T ε α : Type}

/-! ### Work on one handle -/

namespace Focus

variable {opener : Opener σ P} {v : View σ P T}

/-- The handle and the records stay. -/
def Still (v : View σ P T) (f f' : Focus σ P) : Prop :=
  f'.handle = f.handle ∧ v.records f'.outside = v.records f.outside

/-- The identifier and the details of the handle stay, and the records. -/
def Same (v : View σ P T) (f f' : Focus σ P) : Prop :=
  (f'.handle.id = f.handle.id ∧ f'.handle.info = f.handle.info) ∧
    v.records f'.outside = v.records f.outside

theorem Same.trans {v : View σ P T} (f g h : Focus σ P) (hf : Same v f g) (hg : Same v g h) :
    Same v f h :=
  ⟨⟨hg.1.1.trans hf.1.1, hg.1.2.trans hf.1.2⟩, hg.2.trans hf.2⟩

theorem Still.same {f f' : Focus σ P} (h : Still v f f') : Same v f f' :=
  ⟨⟨congrArg Handle.id h.1, congrArg Handle.info h.1⟩, h.2⟩

theorem retire_still (ho : opener.IsApart v) (old : Option P) :
    (retire opener old : Work (Focus σ P) ε Unit).Moves (Still v) := by
  cases old with
  | none => exact fun f => ⟨rfl, rfl⟩
  | some p => exact ((ho.close_records p).report _).within fun f s hs => ⟨rfl, hs⟩

theorem retire_ne_failed {old : Option P} {e : ε} {f f' : Focus σ P} :
    retire opener old f ≠ (.failed e, f') := by
  cases old with
  | none => exact Work.pure_ne_failed
  | some p =>
    intro h
    have hc : (outward (opener.close p).surely : Work (Focus σ P) ε Unit) f = (.failed e, f') := h
    obtain ⟨s, hs, -⟩ := Work.within_eq_iff.mp hc
    exact Work.report_ne_failed hs

/-- Installing changes the handle first, and what comes after leaves it. -/
theorem install_moves (ho : opener.IsApart v) (info : ConnectionInfo) (pool : P) :
    (install opener info pool : Work (Focus σ P) ε Unit).Moves fun f f' =>
      Still v ⟨f.outside, f.handle.install info pool⟩ f' :=
  fun f => retire_still ho f.handle.pool ⟨f.outside, f.handle.install info pool⟩

theorem install_ne_failed {info : ConnectionInfo} {pool : P} {e : ε} {f f' : Focus σ P} :
    install opener info pool f ≠ (.failed e, f') :=
  fun h => retire_ne_failed (f := ⟨f.outside, f.handle.install info pool⟩) h

/-- Closing lets go of the pool first, and what comes after leaves the handle. -/
theorem close_moves (ho : opener.IsApart v) :
    (close opener : Work (Focus σ P) ε Unit).Moves fun f f' =>
      Still v ⟨f.outside, f.handle.release⟩ f' :=
  fun f => retire_still ho f.handle.pool ⟨f.outside, f.handle.release⟩

theorem close_ne_failed {e : ε} {f f' : Focus σ P} : close opener f ≠ (.failed e, f') :=
  fun h => retire_ne_failed (f := ⟨f.outside, f.handle.release⟩) h

theorem close_same (ho : opener.IsApart v) :
    (close opener : Work (Focus σ P) ε Unit).Moves (Same v) :=
  fun f => (close_moves ho f).same

/-- An idle handle keeps its identifier and its details when its first pool arrives. -/
theorem ensureOpen_same (ho : opener.IsApart v) : (ensureOpen opener).Moves (Same v) := by
  rintro ⟨outside, id, info, pool⟩
  cases pool with
  | some pool => exact ⟨⟨rfl, rfl⟩, rfl⟩
  | none =>
    have hc : (outward (opener.connect info) : Work (Focus σ P) Failure P).Moves (Same v) :=
      (ho.connect info).within fun f s hs => ⟨⟨rfl, rfl⟩, hs.1⟩
    have ha (pool : P) : (do
        changeHandle fun h' => (h'.arrive info pool).2
        return pool : Work (Focus σ P) Failure P).Moves (Same v) := by
      intro f
      show Same v f ⟨f.outside, (f.handle.arrive info pool).2⟩
      rw [Handle.arrive]
      split
      · exact ⟨⟨rfl, rfl⟩, rfl⟩
      · split <;> exact ⟨⟨rfl, rfl⟩, rfl⟩
    exact Work.Moves.bind Same.trans hc ha _

end Focus

namespace Gateway

variable {opener : Opener σ P} {v : View σ P T} {store : Store σ T} {g g' : Gateway σ P}

theorem onHandle_eq_iff {h : Handle P} {w : Work (Focus σ P) ε α} {o : Outcome ε α} :
    onHandle h w g = (o, g') ↔ ∃ f, w ⟨g.outside, h⟩ = (o, f) ∧
      g' = ⟨f.outside, g.handles.map fun old => if old.id = h.id then f.handle else old⟩ :=
  Work.within_eq_iff

theorem outward_eq_iff {w : Work σ ε α} {o : Outcome ε α} :
    outward w g = (o, g') ↔ ∃ s, w g.outside = (o, s) ∧ g' = ⟨s, g.handles⟩ :=
  Work.within_eq_iff

theorem find_eq (id : String) (g : Gateway σ P) : find id g =
    match lookup g.handles id with
    | some h => (.done h, g)
    | none => (.failed (.connectionNotFound id), g) := by
  show (match lookup g.handles id with
    | some h => (pure h : Work (Gateway σ P) Failure (Handle P))
    | none => Work.fail (.connectionNotFound id)) g = _
  cases lookup g.handles id <;> rfl

theorem find_eq_done_iff {id : String} {h : Handle P} :
    find id g = (.done h, g') ↔ lookup g.handles id = some h ∧ g' = g := by
  rw [find_eq]
  cases lookup g.handles id <;> simp [eq_comm]

theorem find_failed {id : String} {e : Failure} (h : find id g = (.failed e, g')) : g' = g := by
  rw [find_eq] at h
  cases hl : lookup g.handles id <;> simp_all

theorem find_ne_stalled {id : String} : find id g ≠ (.stalled, g') := by
  rw [find_eq]
  cases lookup g.handles id <;> simp

/-! ### Add -/

theorem add_done (hs : store.IsAtomic v) (ho : opener.IsApart v) {id : String}
    {info : ConnectionInfo} (h : add store opener id info g = (.done (), g')) :
    v.records g'.outside = Function.update (v.records g.outside) id (some info) ∧
      ∃ pool, g'.handles = publish ⟨id, info, some pool⟩ g.handles := by
  obtain ⟨pool, g₁, hw, h⟩ := Work.bind_eq_done_iff.mp h
  obtain ⟨s₁, hc, rfl⟩ := outward_eq_iff.mp hw
  obtain ⟨r, g₂, hw', h⟩ := Work.bind_eq_done_iff.mp h
  cases r with
  | ok x =>
    obtain ⟨s₂, hi, rfl⟩ := outward_eq_iff.mp (Work.attempt_eq_ok_iff.mp hw')
    obtain ⟨-, rfl⟩ := Prod.mk.inj h
    have hr : v.records s₁ = v.records g.outside := ((ho.connect info).apply hc).1
    exact ⟨by rw [← hr]; exact hs.insert_done hi, pool, rfl⟩
  | error f =>
    obtain ⟨_, g₃, -, h⟩ := Work.bind_eq_done_iff.mp h
    simp [Work.fail] at h

theorem add_failed (hs : store.IsAtomic v) (ho : opener.IsApart v) {id : String}
    {info : ConnectionInfo} {e : Failure} (h : add store opener id info g = (.failed e, g')) :
    v.Quiet g.outside g'.outside ∧ g'.handles = g.handles := by
  rcases Work.bind_eq_failed_iff.mp h with h | ⟨pool, g₁, hw, h⟩
  · obtain ⟨s₁, hc, rfl⟩ := outward_eq_iff.mp h
    exact ⟨(ho.connect info).apply hc, rfl⟩
  obtain ⟨s₁, hc, rfl⟩ := outward_eq_iff.mp hw
  rcases Work.bind_eq_failed_iff.mp h with h | ⟨r, g₂, hw', h⟩
  · exact absurd h Work.attempt_ne_failed
  cases r with
  | ok x => simp [Work.change] at h
  | error f =>
    obtain ⟨s₂, hi, rfl⟩ := outward_eq_iff.mp (Work.attempt_eq_error_iff.mp hw')
    rcases Work.bind_eq_failed_iff.mp h with h | ⟨_, g₃, hw'', h⟩
    · obtain ⟨s₃, h, -⟩ := outward_eq_iff.mp h
      exact absurd h Work.report_ne_failed
    obtain ⟨s₃, hp, rfl⟩ := outward_eq_iff.mp hw''
    obtain ⟨-, rfl⟩ := Work.fail_eq_failed_iff.mp h
    have hq : v.Quiet g.outside s₂ :=
      ((ho.connect info).apply hc).trans _ _ _ (hs.insert_failed hi)
    have hr : v.records s₃ = v.records s₂ := ((ho.close_records pool).report _).apply hp
    have hl : ∀ q, q ≠ pool → v.live s₂ q → v.live s₃ q := by
      have hm : (opener.close pool).Moves fun s s' => ∀ q, q ≠ pool → v.live s q → v.live s' q :=
        fun s q hn hq => ho.close_live hn hq
      exact (hm.report _).apply hp
    -- the pool that is closed again was not open before
    refine ⟨⟨hr.trans hq.1, fun q hg => hl q ?_ (hq.2 q hg)⟩, rfl⟩
    rintro rfl
    exact ho.connect_done hc hg

/-! ### Edit -/

theorem edit_done (hs : store.IsAtomic v) (ho : opener.IsApart v) {id : String}
    {info : ConnectionInfo} (h : edit store opener id info g = (.done (), g')) :
    v.records g'.outside = Function.update (v.records g.outside) id (some info) ∧
      ∃ old pool, lookup g.handles id = some old ∧
        g'.handles = replace (old.install info pool) g.handles := by
  obtain ⟨old, g₁, hf, hb⟩ := Work.bind_eq_done_iff.mp h
  obtain ⟨hl, rfl⟩ := find_eq_done_iff.mp hf
  obtain ⟨pool, g₂, hw, hb⟩ := Work.bind_eq_done_iff.mp hb
  obtain ⟨s', hu, rfl⟩ := outward_eq_iff.mp hw
  obtain ⟨tx, s₁, s₂, ht, hp, hc⟩ := Transactions.readCommitted_done hu
  obtain ⟨⟨⟩, s₃, hu, hp⟩ := Work.bind_eq_done_iff.mp hp
  obtain ⟨f, hi, rfl⟩ := onHandle_eq_iff.mp hb
  obtain ⟨hh, hr⟩ := (Focus.install_moves ho info pool).apply hi
  refine ⟨?_, old, pool, hl, ?_⟩
  · calc v.records f.outside
        = v.records s' := hr
      _ = v.staged s₂ tx := hs.commit_done hc
      _ = v.staged s₃ tx := congrFun ((ho.connect_staged info).apply hp) tx
      _ = Function.update (v.staged s₁ tx) id (some info) := hs.update_done hu
      _ = Function.update (v.records g₁.outside) id (some info) := by rw [hs.start_done ht]
  · show g₁.handles.map _ = replace _ _
    rw [hh]
    rfl

theorem edit_failed (hs : store.IsAtomic v) (ho : opener.IsApart v) {id : String}
    {info : ConnectionInfo} {e : Failure} (h : edit store opener id info g = (.failed e, g')) :
    v.Quiet g.outside g'.outside ∧ g'.handles = g.handles := by
  rcases Work.bind_eq_failed_iff.mp h with h | ⟨old, g₁, hf, hb⟩
  · rw [find_failed h]
    exact ⟨.refl _, rfl⟩
  obtain ⟨hl, rfl⟩ := find_eq_done_iff.mp hf
  rcases Work.bind_eq_failed_iff.mp hb with hb | ⟨pool, g₂, -, hb⟩
  · obtain ⟨s', hw, rfl⟩ := outward_eq_iff.mp hb
    have hm (tx : T) : (store.update (some tx) id info >>= fun _ => opener.connect info).Moves
        v.Quiet := Work.Moves.bind View.Quiet.trans (hs.update tx id info) fun _ => ho.connect info
    refine ⟨?_, rfl⟩
    rcases Transactions.readCommitted_failed hw with ht | ⟨tx, s₁, s₂, ht, hw⟩
    · exact hs.start.apply ht
    · have hq := hs.start.apply ht
      rcases hw with ⟨pool, hw, hc⟩ | ⟨hw, o, hr⟩
      · exact (hq.trans _ _ _ ((hm tx).apply hw)).trans _ _ _ (hs.commit_failed hc)
      · exact (hq.trans _ _ _ ((hm tx).apply hw)).trans _ _ _ ((hs.rollback tx).apply hr)
  · obtain ⟨f, hi, -⟩ := onHandle_eq_iff.mp hb
    exact absurd hi Focus.install_ne_failed

/-! ### Remove -/

theorem remove_done (hs : store.IsAtomic v) (ho : opener.IsApart v) {id : String}
    (h : remove store opener id g = (.done (), g')) :
    v.records g'.outside = Function.update (v.records g.outside) id none ∧
      ∃ old, lookup g.handles id = some old ∧
        g'.handles = forget id (replace old.release g.handles) := by
  obtain ⟨old, g₁, hf, hb⟩ := Work.bind_eq_done_iff.mp h
  obtain ⟨hl, rfl⟩ := find_eq_done_iff.mp hf
  obtain ⟨⟨⟩, g₂, hw, hb⟩ := Work.bind_eq_done_iff.mp hb
  obtain ⟨s₁, hd, rfl⟩ := outward_eq_iff.mp hw
  obtain ⟨⟨⟩, g₃, hw', hb⟩ := Work.bind_eq_done_iff.mp hb
  obtain ⟨f, hc, rfl⟩ := onHandle_eq_iff.mp hw'
  obtain ⟨hh, hr⟩ := (Focus.close_moves ho).apply hc
  obtain ⟨-, rfl⟩ := Prod.mk.inj hb
  refine ⟨hr.trans (hs.delete_done hd), old, hl, ?_⟩
  show forget id (g₁.handles.map _) = forget id (replace _ _)
  rw [hh]
  rfl

theorem remove_failed (hs : store.IsAtomic v) {id : String} {e : Failure}
    (h : remove store opener id g = (.failed e, g')) :
    v.Quiet g.outside g'.outside ∧ g'.handles = g.handles := by
  rcases Work.bind_eq_failed_iff.mp h with h | ⟨old, g₁, hf, hb⟩
  · rw [find_failed h]
    exact ⟨.refl _, rfl⟩
  obtain ⟨hl, rfl⟩ := find_eq_done_iff.mp hf
  rcases Work.bind_eq_failed_iff.mp hb with hb | ⟨_, g₂, -, hb⟩
  · obtain ⟨s₁, hd, rfl⟩ := outward_eq_iff.mp hb
    exact ⟨hs.delete_failed hd, rfl⟩
  rcases Work.bind_eq_failed_iff.mp hb with hb | ⟨_, g₃, -, hb⟩
  · obtain ⟨f, hc, -⟩ := onHandle_eq_iff.mp hb
    exact absurd hc Focus.close_ne_failed
  · simp [Work.change] at hb

end Gateway

end SqlGateway
