import SqlGateway.Proofs.Registry.Mutation

/-! The registry and the store agree. What is registered, with which details, is what the store has
    a record of, in every state that a run comes to:

        load ─▶ ● ─ add ─▶ ● ─ edit ✗ ─▶ ● ─ ensureOpen … ─▶ ● ─ remove ─▶ ●
                registered = records at every ●

    A mutation that fails leaves all as it was; one that is done changes one identifier. -/

namespace SqlGateway

variable {σ P T : Type}

/-- What is registered, by identifier. -/
def Gateway.registered (g : Gateway σ P) : String → Option ConnectionInfo := details g.handles

/-! ### Runs -/

/-- A change of the registry. -/
inductive Mutation where
  | add (id : String) (info : ConnectionInfo)
  | edit (id : String) (info : ConnectionInfo)
  | remove (id : String)

namespace Mutation

def id : Mutation → String
  | .add id _ | .edit id _ | .remove id => id

/-- What is to be registered afterwards. -/
def result : Mutation → Option ConnectionInfo
  | .add _ info | .edit _ info => some info
  | .remove _ => none

def run (store : Store σ T) (opener : Opener σ P) : Mutation → Work (Gateway σ P) Failure Unit
  | .add id info => Gateway.add store opener id info
  | .edit id info => Gateway.edit store opener id info
  | .remove id => Gateway.remove store opener id

end Mutation

/-- The states of a run that begins with loading an empty registry. A mutation that stalls is in
    progress for good; whatever else stalls holds nobody up. -/
inductive Reaches (store : Store σ T) (opener : Opener σ P) (v : View σ P T) : Gateway σ P → Prop
  | load {s n g} : Gateway.load store opener ⟨s, []⟩ = (.done n, g) → Reaches store opener v g
  | mutate {g g' o} (m : Mutation) : Reaches store opener v g →
    m.run store opener g = (o, g') → o ≠ .stalled → Reaches store opener v g'
  | closeAll {g o g'} : Reaches store opener v g → Gateway.closeAll opener g = (o, g') →
    Reaches store opener v g'
  | ensureOpen {g o g'} (id : String) : Reaches store opener v g →
    Gateway.focus id (Focus.ensureOpen opener) g = (o, g') → Reaches store opener v g'
  /-- A pool arrives late, from a call that began before. -/
  | arrive {g id h} (info : ConnectionInfo) (pool : P) : Reaches store opener v g →
    lookup g.handles id = some h →
    Reaches store opener v { g with handles := replace (h.arrive info pool).2 g.handles }
  /-- The world outside moves on, but for the records. -/
  | elapse {g s} : Reaches store opener v g → v.records s = v.records g.outside →
    Reaches store opener v { g with outside := s }

/-! ### The invariant -/

/-- Every identifier is registered once, with the details of its record. -/
structure Agrees (v : View σ P T) (g : Gateway σ P) : Prop where
  distinct : Distinct g.handles
  registered : g.registered = v.records g.outside

variable {store : Store σ T} {opener : Opener σ P} {v : View σ P T} {g g' : Gateway σ P}

namespace Agrees

theorem mutate_done (hs : store.IsAtomic v) (ho : opener.IsApart v) (m : Mutation)
    (hg : Distinct g.handles) (h : m.run store opener g = (.done (), g')) :
    Distinct g'.handles ∧
      v.records g'.outside = Function.update (v.records g.outside) m.id m.result ∧
      g'.registered = Function.update g.registered m.id m.result ∧
      ∀ id, id ≠ m.id → g'.handle? id = g.handle? id := by
  cases m with
  | add id info =>
    obtain ⟨hr, pool, hh⟩ := Gateway.add_done hs ho h
    refine ⟨?_, hr, ?_, fun id' hn => ?_⟩
    · rw [hh]
      exact hg.publish _
    · rw [Gateway.registered, hh, details_publish]
      rfl
    · show lookup g'.handles id' = lookup g.handles id'
      rw [hh, lookup_publish]
      exact if_neg hn
  | edit id info =>
    obtain ⟨hr, old, pool, hl, hh⟩ := Gateway.edit_done hs ho h
    have ho : old.id = id := id_of_lookup hl
    have hi : (old.install info pool).id = id := ho
    refine ⟨?_, hr, ?_, fun id' hn => ?_⟩
    · rw [hh]
      exact hg.replace _
    · rw [Gateway.registered, hh, details_replace (hi.symm ▸ hl), hi]
      rfl
    · show lookup g'.handles id' = lookup g.handles id'
      rw [hh, lookup_replace]
      exact if_neg fun he => hn (he.trans hi)
  | remove id =>
    obtain ⟨hr, old, hl, hh⟩ := Gateway.remove_done hs ho h
    have ho : old.id = id := id_of_lookup hl
    have hi : old.release.id = id := ho
    refine ⟨?_, hr, ?_, fun id' hn => ?_⟩
    · rw [hh]
      exact (hg.replace _).forget _
    · rw [Gateway.registered, hh, details_forget, details_replace (hi.symm ▸ hl), hi]
      exact Function.update_idem ..
    · have hn : id' ≠ id := hn
      show lookup g'.handles id' = lookup g.handles id'
      rw [hh, lookup_forget, lookup_replace, if_neg hn, hi, if_neg hn]

theorem mutate_failed (hs : store.IsAtomic v) (ho : opener.IsApart v) (m : Mutation) {e : Failure}
    (h : m.run store opener g = (.failed e, g')) :
    v.Quiet g.outside g'.outside ∧ g'.handles = g.handles := by
  cases m with
  | add id info => exact Gateway.add_failed hs ho h
  | edit id info => exact Gateway.edit_failed hs ho h
  | remove id => exact Gateway.remove_failed hs h

theorem mutate (hs : store.IsAtomic v) (ho : opener.IsApart v) (m : Mutation)
    {o : Outcome Failure Unit} (hg : Agrees v g) (h : m.run store opener g = (o, g'))
    (hn : o ≠ .stalled) : Agrees v g' := by
  cases o with
  | done x =>
    obtain ⟨hd, hr, hi, -⟩ := mutate_done hs ho m hg.distinct h
    exact ⟨hd, by rw [hi, hr, hg.registered]⟩
  | failed e =>
    obtain ⟨hq, hh⟩ := mutate_failed hs ho m h
    refine ⟨by rw [hh]; exact hg.distinct, ?_⟩
    rw [Gateway.registered, hh, hq.1]
    exact hg.registered
  | stalled => exact absurd rfl hn

end Agrees

/-! ### Work on single handles -/

namespace Gateway

/-- Identifiers, details and records stay. -/
structure Same (v : View σ P T) (g g' : Gateway σ P) : Prop where
  ids : g'.handles.map Handle.id = g.handles.map Handle.id
  details : details g'.handles = details g.handles
  records : v.records g'.outside = v.records g.outside

theorem Same.refl (g : Gateway σ P) : Same v g g := ⟨rfl, rfl, rfl⟩

theorem Same.trans (g₁ g₂ g₃ : Gateway σ P) (h : Same v g₁ g₂) (h' : Same v g₂ g₃) :
    Same v g₁ g₃ :=
  ⟨h'.ids.trans h.ids, h'.details.trans h.details, h'.records.trans h.records⟩

theorem Same.agrees (h : Same v g g') (hg : Agrees v g) : Agrees v g' := by
  refine ⟨?_, ?_⟩
  · rw [Distinct, h.ids]
    exact hg.distinct
  · rw [registered, h.details, h.records]
    exact hg.registered

variable {ε α : Type}

/-- Work on a handle whose details are the registered ones. -/
theorem onHandle_same {w : Work (Focus σ P) ε α} (hw : w.Moves (Focus.Same v)) {h : Handle P}
    (hd : details g.handles h.id = some h.info) {o : Outcome ε α}
    (ho : onHandle h w g = (o, g')) : Same v g g' := by
  obtain ⟨f, hf, rfl⟩ := onHandle_eq_iff.mp ho
  obtain ⟨⟨hi, hn⟩, hr⟩ := hw.apply hf
  have hi : f.handle.id = h.id := hi
  have hn : f.handle.info = h.info := hn
  obtain ⟨old, hl, -⟩ := Option.map_eq_some_iff.mp hd
  have hh : (g.handles.map fun old => if old.id = h.id then f.handle else old) =
      replace f.handle g.handles := by rw [replace, hi]
  rw [hh]
  refine ⟨map_id_replace .., ?_, hr⟩
  rw [details_replace (hi ▸ hl), hi, hn]
  exact Function.update_eq_self_iff.mpr hd.symm

theorem arrive_same {id : String} {h : Handle P} (info : ConnectionInfo) (pool : P)
    (hl : lookup g.handles id = some h) :
    Same v g { g with handles := replace (h.arrive info pool).2 g.handles } := by
  obtain ⟨hi, hn⟩ : (h.arrive info pool).2.id = id ∧ (h.arrive info pool).2.info = h.info := by
    rw [Handle.arrive, ← id_of_lookup hl]
    split
    · exact ⟨rfl, rfl⟩
    · split <;> exact ⟨rfl, rfl⟩
  refine ⟨map_id_replace .., ?_, rfl⟩
  rw [details_replace (hi.symm ▸ hl), hi, hn]
  refine Function.update_eq_self_iff.mpr ?_
  rw [details, hl]
  rfl

theorem focus_same {w : Work (Focus σ P) Failure α} (hw : w.Moves (Focus.Same v)) (id : String) :
    (focus id w).Moves (Same v) := by
  intro g
  refine Work.Moves.bind_at Same.trans ?_ fun h g₁ hf => ?_
  · rcases hf : find id g with ⟨h | e | _, g₁⟩
    · obtain ⟨-, rfl⟩ := find_eq_done_iff.mp hf
      exact Same.refl g₁
    · rw [find_failed hf]
      exact Same.refl g
    · exact absurd hf find_ne_stalled
  · obtain ⟨hl, rfl⟩ := find_eq_done_iff.mp hf
    have hd : details g₁.handles h.id = some h.info := by
      rw [details, id_of_lookup hl, hl]
      rfl
    exact onHandle_same hw hd rfl

theorem forM_close_same (ho : opener.IsApart v) {hs : List (Handle P)}
    (hd : ∀ h ∈ hs, details g.handles h.id = some h.info) :
    Same v g ((hs.forM fun h => onHandle h (Focus.close opener) :
      Work (Gateway σ P) Failure PUnit) g).2 := by
  induction hs generalizing g with
  | nil => exact Same.refl g
  | cons h hs ih =>
    obtain ⟨hh, hd⟩ := List.forall_mem_cons.mp hd
    refine Work.Moves.bind_at Same.trans (onHandle_same (Focus.close_same ho) hh rfl) ?_
    intro _ g₁ hw
    -- the handles still to be closed keep their details while the first one is closed
    have hs₁ := onHandle_same (Focus.close_same ho) hh hw
    refine ih fun h' hm => ?_
    rw [hs₁.details]
    exact hd h' hm

theorem closeAll_same (ho : opener.IsApart v) (hg : Distinct g.handles) {o : Outcome Failure Unit}
    (h : closeAll opener g = (o, g')) : Same v g g' := by
  have hd : ∀ h ∈ g.handles, details g.handles h.id = some h.info := by
    intro h hm
    rw [details, lookup_of_mem hg hm]
    rfl
  have hs := forM_close_same ho hd
  have hc : (g.handles.forM fun h => onHandle h (Focus.close opener)) g = (o, g') := h
  rwa [hc] at hs

/-! ### Loading -/

theorem restore_done {row : String × ConnectionInfo} {h : Handle P} {s s' : σ}
    (hr : restore opener row s = (.done h, s')) : (h.id, h.info) = row := by
  obtain ⟨r, s₁, -, hr⟩ := Work.bind_eq_done_iff.mp hr
  cases r with
  | ok pool =>
    obtain ⟨rfl, -⟩ := Work.pure_eq_done_iff.mp hr
    rfl
  | error f =>
    obtain ⟨rfl, -⟩ := Work.pure_eq_done_iff.mp hr
    rfl

theorem restore_quiet (ho : opener.IsApart v) (row : String × ConnectionInfo) :
    (restore opener row).Moves v.Quiet := by
  refine Work.Moves.bind View.Quiet.trans (ho.connect row.2).attempt fun r => ?_
  cases r <;> exact View.Quiet.refl

theorem mapM_restore_done {rows : List (String × ConnectionInfo)} {hs : List (Handle P)}
    {s s' : σ} (h : rows.mapM (restore opener) s = (.done hs, s')) :
    hs.map (fun h => (h.id, h.info)) = rows := by
  induction rows generalizing hs s with
  | nil =>
    obtain ⟨rfl, -⟩ := Work.pure_eq_done_iff.mp h
    rfl
  | cons row rows ih =>
    rw [List.mapM_cons] at h
    obtain ⟨first, s₁, hf, h⟩ := Work.bind_eq_done_iff.mp h
    obtain ⟨rest, s₂, hr, h⟩ := Work.bind_eq_done_iff.mp h
    obtain ⟨rfl, rfl⟩ := Work.pure_eq_done_iff.mp h
    rw [List.map_cons, restore_done hf, ih hr]

/-- Published handles that show a map, and all of it. -/
theorem details_publishAll {new : List (Handle P)} {m : String → Option ConnectionInfo}
    (hm : ∀ h ∈ new, m h.id = some h.info) (ha : ∀ id, m id ≠ none → ∃ h ∈ new, h.id = id) :
    details (publishAll new []) = m := by
  funext id
  rcases lookup_publishAll new [] id with ⟨h, hn, rfl, hl⟩ | ⟨hn, hl⟩
  · rw [details, hl, hm h hn]
    rfl
  · rw [details, hl]
    by_contra hi
    obtain ⟨h, hh, hid⟩ := ha id (Ne.symm hi)
    exact hn h hh hid

/-- A registry that was empty agrees with the store once it is loaded. -/
theorem load_done (hs : store.IsAtomic v) (ho : opener.IsApart v) {s : σ} {n : Nat}
    (h : load store opener ⟨s, []⟩ = (.done n, g)) :
    Agrees v g ∧ v.records g.outside = v.records s := by
  obtain ⟨restored, g₁, hw, h⟩ := Work.bind_eq_done_iff.mp h
  obtain ⟨s', hb, rfl⟩ := outward_eq_iff.mp hw
  obtain ⟨rows, s₁, hl, hr⟩ := Work.bind_eq_done_iff.mp hb
  obtain ⟨⟨⟩, g₂, hc, h⟩ := Work.bind_eq_done_iff.mp h
  obtain ⟨-, rfl⟩ := Prod.mk.inj hc
  obtain ⟨-, rfl⟩ := Work.pure_eq_done_iff.mp h
  have hk : v.records s' = v.records s := by
    have hq := Work.Moves.mapM View.Quiet.refl View.Quiet.trans (restore_quiet ho) rows
    exact ((hs.list.apply hl).trans _ _ _ (hq.apply hr)).1
  have hrows (id : String) (info : ConnectionInfo) :
      (∃ h ∈ restored, h.id = id ∧ h.info = info) ↔ v.records s id = some info := by
    rw [← hs.list_done hl, ← mapM_restore_done hr]
    simp
  have hd : details (publishAll restored []) = v.records s := by
    refine details_publishAll (fun h hm => (hrows _ _).mp ⟨h, hm, rfl, rfl⟩) fun id hi => ?_
    obtain ⟨info, hi⟩ := Option.ne_none_iff_exists'.mp hi
    obtain ⟨h, hm, hid, -⟩ := (hrows id info).mpr hi
    exact ⟨h, hm, hid⟩
  have hdist : Distinct (publishAll restored []) := Distinct.nil.publishAll _
  have hd' : details (publishAll (publishAll restored []) []) = v.records s := by
    refine details_publishAll (fun h hm => ?_) fun id hi => ?_
    · rw [← hd, details, lookup_of_mem hdist hm]
      rfl
    · rw [← hd, details] at hi
      obtain ⟨h, hl⟩ := Option.ne_none_iff_exists'.mp (Option.map_eq_none_iff.not.mp hi)
      exact ⟨h, List.mem_of_find?_eq_some hl, id_of_lookup hl⟩
  exact ⟨⟨Distinct.nil.publishAll _, hd'.trans hk.symm⟩, hk⟩

end Gateway

/-! ### Every run -/

theorem Reaches.agrees (hs : store.IsAtomic v) (ho : opener.IsApart v)
    (h : Reaches store opener v g) : Agrees v g := by
  induction h with
  | load h => exact (Gateway.load_done hs ho h).1
  | mutate m _ h hn ih => exact ih.mutate hs ho m h hn
  | closeAll _ h ih => exact (Gateway.closeAll_same ho ih.distinct h).agrees ih
  | ensureOpen id _ h ih =>
    have hm := Gateway.focus_same (Focus.ensureOpen_same ho) id
    exact (hm.apply h).agrees ih
  | arrive info pool _ hl ih => exact (Gateway.arrive_same info pool hl).agrees ih
  | elapse _ hr ih => exact ⟨ih.distinct, ih.registered.trans hr.symm⟩

end SqlGateway
