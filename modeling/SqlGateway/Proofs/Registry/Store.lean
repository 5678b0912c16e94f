import SqlGateway.Proofs.Registry.Lookup
import Mathlib.Data.List.AList

/-! The store as an atomic map, and pools apart from it. What counts of the world outside is seen
    through a view: the stored records, those that a transaction would leave behind, and the pools
    that are open.

        start tx      staged tx = records
        update tx     staged tx changes under one identifier, records stay
        commit tx     records = staged tx
        rollback tx   records stay
        insert, delete without a transaction change records under one identifier

    What fails leaves the records as they were. -/

namespace SqlGateway

/-- What can be seen of the world outside. -/
structure View (σ P T : Type) where
  records : σ → String → Option ConnectionInfo
  staged : σ → T → String → Option ConnectionInfo
  live : σ → P → Prop

variable {σ P T ε α : Type}

/-- The records stay as they are and no open pool is closed. -/
def View.Quiet (v : View σ P T) (s s' : σ) : Prop :=
  v.records s' = v.records s ∧ ∀ p, v.live s p → v.live s' p

theorem View.Quiet.refl {v : View σ P T} (s : σ) : v.Quiet s s := ⟨rfl, fun _ h => h⟩

theorem View.Quiet.trans {v : View σ P T} (s t u : σ) (h : v.Quiet s t) (h' : v.Quiet t u) :
    v.Quiet s u := ⟨h'.1.trans h.1, fun p hp => h'.2 p (h.2 p hp)⟩

/-- A store of records that is an atomic map. -/
structure Store.IsAtomic (store : Store σ T) (v : View σ P T) : Prop where
  list : store.list.Moves v.Quiet
  start : store.start.Moves v.Quiet
  update : ∀ tx id info, (store.update (some tx) id info).Moves v.Quiet
  rollback : ∀ tx, (store.rollback tx).Moves v.Quiet
  list_done : ∀ {s s' rows}, store.list s = (.done rows, s') →
    ∀ id info, (id, info) ∈ rows ↔ v.records s id = some info
  insert_done : ∀ {s s' id info}, store.insert none id info s = (.done (), s') →
    v.records s' = Function.update (v.records s) id (some info)
  insert_failed : ∀ {s s' id info e}, store.insert none id info s = (.failed e, s') → v.Quiet s s'
  delete_done : ∀ {s s' id}, store.delete none id s = (.done (), s') →
    v.records s' = Function.update (v.records s) id none
  delete_failed : ∀ {s s' id e}, store.delete none id s = (.failed e, s') → v.Quiet s s'
  start_done : ∀ {s s' tx}, store.start s = (.done tx, s') → v.staged s' tx = v.records s
  update_done : ∀ {s s' tx id info}, store.update (some tx) id info s = (.done (), s') →
    v.staged s' tx = Function.update (v.staged s tx) id (some info)
  commit_done : ∀ {s s' tx}, store.commit tx s = (.done (), s') → v.records s' = v.staged s tx
  commit_failed : ∀ {s s' tx e}, store.commit tx s = (.failed e, s') → v.Quiet s s'

/-- Pools that have nothing to do with the records, and of which closing one leaves the others. -/
structure Opener.IsApart (opener : Opener σ P) (v : View σ P T) : Prop where
  connect : ∀ info, (opener.connect info).Moves v.Quiet
  connect_staged : ∀ info, (opener.connect info).Keeps v.staged
  connect_done : ∀ {s s' info p}, opener.connect info s = (.done p, s') → ¬ v.live s p
  close_records : ∀ p, (opener.close p).Keeps v.records
  close_live : ∀ {s p q}, q ≠ p → v.live s q → v.live (opener.close p s).2 q

/-! ### Units of work -/

namespace Transactions

variable {t : Transactions σ T} {work : T → Work σ Failure α} {s s' : σ}

theorem readCommitted_done {a : α} (h : t.readCommitted none work s = (.done a, s')) :
    ∃ tx s₁ s₂, t.start s = (.done tx, s₁) ∧ work tx s₁ = (.done a, s₂) ∧
      t.commit tx s₂ = (.done (), s') := by
  obtain ⟨tx, s₁, ht, h⟩ := Work.bind_eq_done_iff.mp h
  obtain ⟨r, s₂, hw, h⟩ := Work.bind_eq_done_iff.mp h
  cases r with
  | ok x =>
    obtain ⟨⟨⟩, s₃, hc, h⟩ := Work.bind_eq_done_iff.mp h
    obtain ⟨rfl, rfl⟩ := Work.pure_eq_done_iff.mp h
    exact ⟨tx, s₁, s₂, ht, Work.attempt_eq_ok_iff.mp hw, hc⟩
  | error f =>
    obtain ⟨_, s₃, -, h⟩ := Work.bind_eq_done_iff.mp h
    simp [Work.fail] at h

/-- A unit of work fails if it does not begin, is not committed, or fails itself and is rolled
    back. -/
theorem readCommitted_failed {e : Failure} (h : t.readCommitted none work s = (.failed e, s')) :
    t.start s = (.failed e, s') ∨ ∃ tx s₁ s₂, t.start s = (.done tx, s₁) ∧
      ((∃ a, work tx s₁ = (.done a, s₂) ∧ t.commit tx s₂ = (.failed e, s')) ∨
        work tx s₁ = (.failed e, s₂) ∧ ∃ o, t.rollback tx s₂ = (o, s')) := by
  rcases Work.bind_eq_failed_iff.mp h with h | ⟨tx, s₁, ht, h⟩
  · exact Or.inl h
  · refine Or.inr ⟨tx, s₁, ?_⟩
    rcases Work.bind_eq_failed_iff.mp h with h | ⟨r, s₂, hw, h⟩
    · exact absurd h Work.attempt_ne_failed
    · refine ⟨s₂, ht, ?_⟩
      cases r with
      | ok x =>
        rcases Work.bind_eq_failed_iff.mp h with h | ⟨_, s₃, -, h⟩
        · exact Or.inl ⟨x, Work.attempt_eq_ok_iff.mp hw, h⟩
        · exact absurd h Work.pure_ne_failed
      | error f =>
        rcases Work.bind_eq_failed_iff.mp h with h | ⟨r, s₃, hr, h⟩
        · exact absurd h Work.attempt_ne_failed
        · obtain ⟨rfl, rfl⟩ := Work.fail_eq_failed_iff.mp h
          refine Or.inr ⟨Work.attempt_eq_error_iff.mp hw, ?_⟩
          cases r with
          | ok x => exact ⟨_, Work.attempt_eq_ok_iff.mp hr⟩
          | error f' => exact ⟨_, Work.attempt_eq_error_iff.mp hr⟩

end Transactions

/-! ### Records in memory -/

/-- Records by identifier, those of the transaction, and how many pools there were. -/
structure Shelf where
  records : AList fun _ : String => ConnectionInfo
  staged : AList fun _ : String => ConnectionInfo := ∅
  opened : Nat := 0
  closed : List Nat := []

namespace Shelf

def view : View Shelf Nat Unit where
  records s id := s.records.lookup id
  staged s _ id := s.staged.lookup id
  live s p := p < s.opened ∧ p ∉ s.closed

def putRecords (m : AList fun _ : String => ConnectionInfo) (s : Shelf) : Shelf :=
  { s with records := m }

def putStaged (m : AList fun _ : String => ConnectionInfo) (s : Shelf) : Shelf :=
  { s with staged := m }

/-- A write to one of the maps, which may have to hold the identifier or to lack it. -/
def write (map : Shelf → AList fun _ : String => ConnectionInfo)
    (put : (AList fun _ : String => ConnectionInfo) → Shelf → Shelf) (held : Bool)
    (id : String) (info : ConnectionInfo) : Work Shelf Failure Unit := fun s =>
  if ((map s).lookup id).isSome = held then (.done (), put ((map s).insert id info) s)
  else (.failed (.connectionNotFound id), s)

def store : Store Shelf Unit where
  start s := (.done (), { s with staged := s.records })
  commit _ s := (.done (), { s with records := s.staged })
  rollback _ s := (.done (), s)
  list s := (.done (s.records.entries.map fun e => (e.1, e.2)), s)
  insert
    | none => write records putRecords false
    | some _ => write staged putStaged false
  update
    | none => write records putRecords true
    | some _ => write staged putStaged true
  delete
    | none => fun id s => (.done (), putRecords (s.records.erase id) s)
    | some _ => fun id s => (.done (), putStaged (s.staged.erase id) s)

/-- Opens everything but hosts without a name, and numbers the pools. -/
def connect (info : ConnectionInfo) : Work Shelf Failure Nat := fun s =>
  if info.driver ≠ .sqlite ∧ info.host = "" then (.failed (.connectionFailed "no host" ""), s)
  else (.done s.opened, { s with opened := s.opened + 1 })

def opener : Opener Shelf Nat where
  connect := connect
  close p s := (.done (), { s with closed := p :: s.closed })

theorem lookup_insert_eq_update (m : AList fun _ : String => ConnectionInfo) (id : String)
    (info : ConnectionInfo) :
    (fun id' => (m.insert id info).lookup id') =
      Function.update (fun id' => m.lookup id') id (some info) := by
  funext id'
  rw [Function.update_apply]
  split
  · next h => rw [h, AList.lookup_insert]
  · next h => rw [AList.lookup_insert_ne h]

theorem lookup_erase_eq_update (m : AList fun _ : String => ConnectionInfo) (id : String) :
    (fun id' => (m.erase id).lookup id') =
      Function.update (fun id' => m.lookup id') id none := by
  funext id'
  rw [Function.update_apply]
  split
  · next h => rw [h, AList.lookup_erase]
  · next h => rw [AList.lookup_erase_ne h]

theorem write_eq {map : Shelf → AList fun _ : String => ConnectionInfo}
    {put : (AList fun _ : String => ConnectionInfo) → Shelf → Shelf} {held : Bool} {id : String}
    {info : ConnectionInfo} {o : Outcome Failure Unit} {s s' : Shelf}
    (h : write map put held id info s = (o, s')) :
    o = .done () ∧ s' = put ((map s).insert id info) s ∨
      (∃ e, o = .failed e) ∧ s' = s := by
  rw [write] at h
  split at h
  · obtain ⟨rfl, rfl⟩ := Prod.mk.inj h
    exact Or.inl ⟨rfl, rfl⟩
  · obtain ⟨rfl, rfl⟩ := Prod.mk.inj h
    exact Or.inr ⟨⟨_, rfl⟩, rfl⟩

theorem store_isAtomic : store.IsAtomic view where
  list _ := .refl _
  start _ := ⟨rfl, fun _ h => h⟩
  update _ id info s := by
    show view.Quiet s (write staged putStaged true id info s).2
    rcases hw : write staged putStaged true id info s with ⟨o, s'⟩
    obtain ⟨-, rfl⟩ | ⟨-, rfl⟩ := write_eq hw
    · exact ⟨rfl, fun _ h => h⟩
    · exact .refl _
  rollback _ _ := .refl _
  list_done {s s' rows} h id info := by
    obtain ⟨h, -⟩ := Prod.mk.inj h
    obtain rfl := Outcome.done.inj h
    have hl : view.records s id = some info ↔ ⟨id, info⟩ ∈ s.records.entries := AList.mem_lookup_iff
    rw [hl, List.mem_map]
    constructor
    · rintro ⟨⟨id', info'⟩, he, h⟩
      obtain ⟨rfl, rfl⟩ := Prod.mk.inj h
      exact he
    · exact fun he => ⟨⟨id, info⟩, he, rfl⟩
  insert_done {s s' id info} h := by
    have hw : write records putRecords false id info s = (.done (), s') := h
    obtain ⟨-, rfl⟩ | ⟨⟨e, he⟩, -⟩ := write_eq hw
    · exact lookup_insert_eq_update s.records id info
    · simp at he
  insert_failed {s s' id info e} h := by
    have hw : write records putRecords false id info s = (.failed e, s') := h
    obtain ⟨he, -⟩ | ⟨-, rfl⟩ := write_eq hw
    · simp at he
    · exact .refl _
  delete_done {s s' id} h := by
    obtain ⟨-, rfl⟩ := Prod.mk.inj h
    exact lookup_erase_eq_update s.records id
  delete_failed h := by simp [store] at h
  start_done h := by
    obtain ⟨-, rfl⟩ := Prod.mk.inj h
    rfl
  update_done {s s' tx id info} h := by
    have hw : write staged putStaged true id info s = (.done (), s') := h
    obtain ⟨-, rfl⟩ | ⟨⟨e, he⟩, -⟩ := write_eq hw
    · exact lookup_insert_eq_update s.staged id info
    · simp at he
  commit_done h := by
    obtain ⟨-, rfl⟩ := Prod.mk.inj h
    rfl
  commit_failed h := by simp [store] at h

theorem opener_isApart : opener.IsApart view where
  connect info s := by
    show view.Quiet s (connect info s).2
    rw [connect]
    split
    · exact .refl _
    · exact ⟨rfl, fun p hp => ⟨Nat.lt_succ_of_lt hp.1, hp.2⟩⟩
  connect_staged info s := by
    show view.staged (connect info s).2 = view.staged s
    rw [connect]
    split <;> rfl
  connect_done {s s' info p} h hl := by
    have hc : connect info s = (.done p, s') := h
    rw [connect] at hc
    split at hc
    · simp at hc
    · obtain ⟨hp, -⟩ := Prod.mk.inj hc
      obtain rfl := Outcome.done.inj hp
      exact absurd hl.1 (Nat.lt_irrefl _)
  close_records _ _ := rfl
  close_live hn hl := ⟨hl.1, by simp [opener, hn, hl.2]⟩

end Shelf

end SqlGateway
