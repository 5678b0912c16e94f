import SqlGateway.Proofs.Connection.Removal
import SqlGateway.Proofs.Connection.Sharing

/-! What a step of a request comes to, and a step of a removal.

        request     arrives   found, or not               the entry is left alone
                    calls     a step of a caller
                    asks      ended with the answer       the handle is left alone
        removal     finds, deletes                        the handle is left alone
                    closes    the pool of the handle is let go of, then closed
                    forgets                               no longer registered

    Whatever a step comes to, pools that were opened stay so, and closed ones stay closed. -/

namespace SqlGateway

variable {σ P T α : Type}

namespace Ledger

/-- Pools that were opened stay so, and if they are closed, they stay closed. -/
structure Grows (l : Ledger σ P) (o o' : σ) : Prop where
  opened : ∀ q, l.opened o q ≠ none → l.opened o' q ≠ none
  closed : ∀ q, l.opened o q ≠ none → l.closed o q → l.closed o' q

variable {opener : Opener σ P} {l : Ledger σ P} {o o' : σ}

theorem Grows.trans {o'' : σ} (h : l.Grows o o') (h' : l.Grows o' o'') : l.Grows o o'' :=
  ⟨fun q hq => h'.opened q (h.opened q hq),
    fun q hq hc => h'.closed q (h.opened q hq) (h.closed q hq hc)⟩

theorem Still.grows (h : l.Still o o') : l.Grows o o' :=
  ⟨fun _ hq => h.1 ▸ hq, fun _ _ hc => h.2 ▸ hc⟩

theorem Grows.refl (o : σ) : l.Grows o o := Still.grows ⟨rfl, rfl⟩

theorem Spares.grows {gone : Option P} (h : l.Spares gone o o')
    (hg : ∀ q, gone = some q → l.closed o q → l.closed o' q) : l.Grows o o' := by
  refine ⟨fun q hq => by rwa [h.opened q hq], fun q hq hc => ?_⟩
  by_cases hgone : gone = some q
  · exact hg q hgone hc
  · exact (h.closed q hq hgone).mpr hc

theorem connect_grows (hk : opener.Keeps l) (info : ConnectionInfo) :
    (opener.connect info).Moves l.Grows := by
  intro s
  rcases hc : opener.connect info s with ⟨_ | _ | _, s'⟩
  · exact (spares_of_connect hk hc).grows (by simp)
  · exact (hk.connect_failed hc).grows
  · exact (hk.connect_stalled hc).grows

theorem close_grows (hk : opener.Keeps l) (p : P) : (opener.close p).Moves l.Grows := by
  intro s
  rcases hc : opener.close p s with ⟨r, s'⟩
  refine (spares_of_close hk hc).grows ?_
  rintro q hq
  obtain rfl := Option.some.inj hq
  exact hk.close_again hc

end Ledger

namespace Call

variable {opener : Opener σ P} {l : Ledger σ P} {d d' : Desk σ P} {c c' : Call P}

/-- A caller who wants the pool of the handle, and does not change its details or close it. -/
def seeks : Call P → Bool
  | .replaces _ | .installs .. | .releases | .retires _ => false
  | _ => true

/-- Only a fresh pool is put at the handle by a caller who wants its pool, and only if there is
    none. -/
theorem pool_of_seeks (hs : c.seeks = true) (h : c.step opener d = (.done c', d')) :
    c'.seeks = true ∧ (d'.handle.pool = d.handle.pool ∨
      d.handle.pool = none ∧ c.held? = d'.handle.pool) := by
  cases c with
  | asks =>
    rw [step_asks] at h
    cases hp : d.handle.pool <;> rw [hp] at h <;> obtain ⟨rfl, rfl⟩ := Work.done_inj h <;>
      exact ⟨rfl, Or.inl hp⟩
  | waits =>
    rw [step_waits] at h
    split at h <;> obtain ⟨rfl, rfl⟩ := Work.done_inj h <;> exact ⟨rfl, Or.inl rfl⟩
  | looks =>
    rw [step_looks] at h
    cases hp : d.handle.pool <;> rw [hp] at h <;> obtain ⟨rfl, rfl⟩ := Work.done_inj h <;>
      exact ⟨rfl, Or.inl hp⟩
  | opens info =>
    rw [step_opens] at h
    rcases hc : opener.connect info d.outside with ⟨_ | _ | _, s⟩ <;> rw [hc] at h
    · obtain ⟨rfl, rfl⟩ := Work.done_inj h
      exact ⟨rfl, Or.inl rfl⟩
    · obtain ⟨rfl, rfl⟩ := Work.done_inj h
      exact ⟨rfl, Or.inl rfl⟩
    · nomatch h
  | brings info p =>
    rw [step_brings] at h
    cases hp : d.handle.pool with
    | some existing =>
      rw [hp] at h
      obtain ⟨rfl, rfl⟩ := Work.done_inj h
      exact ⟨rfl, Or.inl hp⟩
    | none =>
      simp only [hp] at h
      split at h <;> obtain ⟨rfl, rfl⟩ := Work.done_inj h
      · exact ⟨rfl, Or.inr ⟨rfl, rfl⟩⟩
      · exact ⟨rfl, Or.inl hp⟩
  | discards p existing =>
    obtain ⟨⟨⟩, d₁, hw, h⟩ := Work.bind_eq_done_iff.mp h
    obtain ⟨s, -, rfl⟩ := Desk.outward_eq_iff.mp hw
    cases existing <;> obtain ⟨rfl, rfl⟩ := Work.done_inj h <;> exact ⟨rfl, Or.inl rfl⟩
  | ended result =>
    obtain ⟨rfl, rfl⟩ := Work.done_inj h
    exact ⟨rfl, Or.inl rfl⟩
  | replaces info => nomatch hs
  | installs info p => nomatch hs
  | releases => nomatch hs
  | retires p => nomatch hs

/-- After a step no caller is about to let go of the pool of the handle. -/
theorem step_ne_releases (h : c.step opener d = (.done c', d')) : c' ≠ .releases := by
  have hclosing (old : Option P) : closing old ≠ .releases := by cases old <;> exact nofun
  cases hs : c.seeks with
  | true =>
    rintro rfl
    nomatch (pool_of_seeks hs h).1
  | false =>
    cases c with
    | replaces info =>
      obtain ⟨r, d₁, -, h⟩ := Work.bind_eq_done_iff.mp h
      cases r <;> obtain ⟨rfl, -⟩ := Work.done_inj h <;> exact nofun
    | installs info p =>
      obtain ⟨rfl, -⟩ := Work.done_inj h
      exact hclosing _
    | releases =>
      obtain ⟨rfl, -⟩ := Work.done_inj h
      exact hclosing _
    | retires p =>
      obtain ⟨⟨⟩, d₁, -, h⟩ := Work.bind_eq_done_iff.mp h
      obtain ⟨rfl, -⟩ := Work.done_inj h
      exact nofun
    | _ => nomatch hs

/-- The handle is of the same connection ever after. -/
theorem id_of_step (h : c.step opener d = (.done c', d')) : d'.handle.id = d.handle.id := by
  cases effect_of_step h with
  | rests _ hh => rw [hh]
  | opens _ hh => rw [hh]
  | fails _ hh => rw [hh]
  | keeps _ _ _ _ hh => rw [hh]
  | closes _ hh => rw [hh]
  | swaps _ _ hh => exact hh ▸ rfl
  | releases _ _ hh => exact hh ▸ rfl

/-- What comes to hand is what was in hand, what was at the handle, or a fresh pool. -/
theorem held?_of_step (hk : opener.Keeps l) {p : P} (h : c.step opener d = (.done c', d'))
    (hp : c'.held? = some p) :
    c.held? = some p ∨ d.handle.pool = some p ∨ l.opened d'.outside p ≠ none := by
  cases effect_of_step h with
  | rests _ _ hh _ => exact Or.inl (hh.symm.trans hp)
  | opens hc _ _ hh _ =>
    obtain rfl := Option.some.inj (hh.symm.trans hp)
    exact Or.inr (Or.inr (by simp [(hk.connect_done hc).1]))
  | fails _ _ _ hh => nomatch hh.symm.trans hp
  | keeps _ _ _ _ _ hh => nomatch hh.symm.trans hp
  | closes _ _ _ hh => nomatch hh.symm.trans hp
  | swaps _ _ _ hh _ => exact Or.inr (Or.inl (hh.symm.trans hp))
  | releases _ _ _ hh _ => exact Or.inr (Or.inl (hh.symm.trans hp))

/-- Who is given a pool stays with it. -/
theorem given?_step {p : P} (hg : c.given? = some p) (h : c.step opener d = (.done c', d')) :
    c'.given? = some p := by
  cases c with
  | discards q existing =>
    obtain rfl : existing = some p := hg
    obtain ⟨⟨⟩, d₁, -, h⟩ := Work.bind_eq_done_iff.mp h
    obtain ⟨rfl, -⟩ := Work.done_inj h
    rfl
  | ended result =>
    obtain ⟨rfl, -⟩ := Work.done_inj h
    exact hg
  | _ => nomatch hg

theorem step_grows (hk : opener.Keeps l) (c : Call P) :
    (c.step opener).Moves fun d d' => l.Grows d.outside d'.outside := by
  intro d
  rcases h : c.step opener d with ⟨c' | e | _, d'⟩
  · cases effect_of_step h with
    | rests ho => exact ho ▸ .refl _
    | opens hc => exact (Ledger.connect_grows hk _).apply hc
    | fails hc => exact (Ledger.connect_grows hk _).apply hc
    | keeps ho => exact ho ▸ .refl _
    | closes hc => exact (Ledger.close_grows hk _).apply hc
    | swaps ho => exact ho ▸ .refl _
    | releases ho => exact ho ▸ .refl _
  · exact e.elim
  · obtain ⟨-, ⟨info, hc⟩ | ⟨p, -, -, hc⟩⟩ := stalled_of_step h
    · exact (Ledger.connect_grows hk _).apply hc
    · exact (Ledger.close_grows hk _).apply hc

end Call

/-- What requests and a removal do outside, apart from opening and closing pools: none is opened or
    closed, and nothing is run at a closed pool. -/
structure Quiet (store : Store σ T) (ask : Nat → P → Work σ Failure α) (l : Ledger σ P) :
    Prop where
  deletes : ∀ id, (store.delete none id).Moves l.Still
  asks : ∀ i p, (ask i p).Moves l.Still
  fails : ∀ i p s, l.closed s p → ∃ f, ask i p s = (.failed f, s)

namespace Entry

variable {ε : Type} {l : Ledger σ P} {e e' : Entry σ P}

theorem outward_eq_iff {w : Work σ ε α} {o : Outcome ε α} : outward w e = (o, e') ↔
    ∃ s, w e.desk.outside = (o, s) ∧ e' = { e with desk := { e.desk with outside := s } } := by
  constructor
  · intro h
    rw [outward, atDesk] at h
    obtain ⟨d, hd, rfl⟩ := Work.within_eq_iff.mp h
    obtain ⟨s, hs, rfl⟩ := Desk.outward_eq_iff.mp hd
    exact ⟨s, hs, rfl⟩
  · rintro ⟨s, hs, rfl⟩
    exact outward_of_eq hs

/-- The pools, whatever happens at the handle. -/
def Grows (l : Ledger σ P) (e e' : Entry σ P) : Prop := l.Grows e.desk.outside e'.desk.outside

theorem atDesk_grows {w : Work (Desk σ P) ε α}
    (h : w.Moves fun d d' => l.Grows d.outside d'.outside) : (atDesk w).Moves (Grows l) :=
  h.within fun _ _ h => h

theorem outward_grows {w : Work σ ε α} (h : w.Moves l.Still) : (outward w).Moves (Grows l) :=
  atDesk_grows (h.within fun _ _ h => Ledger.Still.grows h)

end Entry

namespace Request

variable {opener : Opener σ P} {l : Ledger σ P} {ask : P → Work σ Failure α}
  {e e' : Entry σ P} {r r' : Request P α}

def held? : Request P α → Option P
  | .calls c => c.held?
  | _ => none

/-- The pool that the request is given, or will be once another one is closed. -/
def given? : Request P α → Option P
  | .calls c => c.given?
  | .asks p => some p
  | _ => none

def seeks : Request P α → Bool
  | .calls c => c.seeks
  | _ => true

def hasEnded : Request P α → Bool
  | .ended _ => true
  | _ => false

/-- Is the request about to open a pool for the handle, or to run something at an open one? -/
def IsAtWork (l : Ledger σ P) (o : σ) : Request P α → Prop
  | .calls (.opens _) | .calls (.brings ..) => True
  | .asks p => ¬ l.closed o p
  | _ => False

@[simp] theorem held?_follow (c : Call P) : (follow c : Request P α).held? = c.held? := by
  unfold follow
  split <;> rfl

@[simp] theorem given?_follow (c : Call P) : (follow c : Request P α).given? = c.given? := by
  unfold follow
  split <;> rfl

theorem seeks_follow {c : Call P} (h : c.seeks = true) : (follow c : Request P α).seeks = true := by
  unfold follow
  split
  · rfl
  · rfl
  · exact h

/-- What a step of a request changes. -/
inductive Effect (opener : Opener σ P) (ask : P → Work σ Failure α) (e e' : Entry σ P)
    (r r' : Request P α) : Prop
  | finds : r = .arrives → r' = .calls .asks → e.isRegistered = true → e' = e →
    Effect opener ask e e' r r'
  | misses : r = .arrives → r' = .ended (.error (.connectionNotFound e.desk.handle.id)) →
    e.isRegistered = false → e' = e → Effect opener ask e e' r r'
  | calls {c c'} : r = .calls c → r' = follow c' → c.step opener e.desk = (.done c', e'.desk) →
    e'.isRegistered = e.isRegistered → Effect opener ask e e' r r'
  | answers {p x} : r = .asks p → r' = .ended x →
    ((ask p).attempt : Work σ Empty _) e.desk.outside = (.done x, e'.desk.outside) →
    e'.desk.handle = e.desk.handle → e'.isRegistered = e.isRegistered → Effect opener ask e e' r r'
  | rests : r.hasEnded = true → r' = r → e' = e → Effect opener ask e e' r r'

theorem effect_of_step (h : r.step opener ask e = (.done r', e')) :
    Effect opener ask e e' r r' := by
  cases r with
  | arrives =>
    cases hr : e.isRegistered <;> simp only [step, Work.bind_apply, Work.state, hr] at h
    · obtain ⟨rfl, rfl⟩ := Work.done_inj h
      exact .misses rfl rfl hr rfl
    · obtain ⟨rfl, rfl⟩ := Work.done_inj h
      exact .finds rfl rfl hr rfl
  | calls c =>
    obtain ⟨c', e₁, hc, h⟩ := Work.bind_eq_done_iff.mp h
    obtain ⟨rfl, rfl⟩ := Work.done_inj h
    obtain ⟨d, hd, rfl⟩ := Work.within_eq_iff.mp hc
    exact .calls rfl rfl hd rfl
  | asks p =>
    obtain ⟨x, e₁, ha, h⟩ := Work.bind_eq_done_iff.mp h
    obtain ⟨rfl, rfl⟩ := Work.done_inj h
    rw [Entry.outward, Entry.atDesk, Work.attempt_within, Desk.outward, Work.attempt_within] at ha
    obtain ⟨d, hd, rfl⟩ := Work.within_eq_iff.mp ha
    obtain ⟨s, hs, rfl⟩ := Work.within_eq_iff.mp hd
    exact .answers rfl rfl hs rfl rfl
  | ended result =>
    obtain ⟨rfl, rfl⟩ := Work.done_inj h
    exact .rests rfl rfl rfl

theorem not_isAtWork_of_given? {o : σ} {p : P} (hg : r.given? = some p ∨ r.hasEnded = true)
    (hc : l.closed o p) : ¬ r.IsAtWork l o := by
  cases r with
  | calls c => cases c <;> first | exact id | simp [given?, Call.given?, hasEnded] at hg
  | asks q =>
    obtain rfl : q = p := Option.some.inj (hg.resolve_right Bool.false_ne_true)
    exact not_not.mpr hc
  | _ => exact id

theorem isRegistered_of_step (h : r.step opener ask e = (.done r', e')) :
    e'.isRegistered = e.isRegistered := by
  cases effect_of_step h with
  | finds _ _ _ he => rw [he]
  | misses _ _ _ he => rw [he]
  | calls _ _ _ hr => exact hr
  | answers _ _ _ _ hr => exact hr
  | rests _ _ he => rw [he]

theorem id_of_step (h : r.step opener ask e = (.done r', e')) :
    e'.desk.handle.id = e.desk.handle.id := by
  cases effect_of_step h with
  | finds _ _ _ he => rw [he]
  | misses _ _ _ he => rw [he]
  | calls _ _ hc _ => exact Call.id_of_step hc
  | answers _ _ _ hh _ => rw [hh]
  | rests _ _ he => rw [he]

/-- Only a fresh pool is put at the handle by a request, and only if there is none. -/
theorem pool_of_step (hs : r.seeks = true) (h : r.step opener ask e = (.done r', e')) :
    r'.seeks = true ∧ (e'.desk.handle.pool = e.desk.handle.pool ∨
      e.desk.handle.pool = none ∧ r.held? = e'.desk.handle.pool) := by
  cases effect_of_step h with
  | finds _ hr _ he => exact ⟨hr ▸ rfl, Or.inl (by rw [he])⟩
  | misses _ hr _ he => exact ⟨hr ▸ rfl, Or.inl (by rw [he])⟩
  | calls hr hr' hc _ =>
    subst hr hr'
    obtain ⟨hs', hp⟩ := Call.pool_of_seeks hs hc
    exact ⟨seeks_follow hs', hp⟩
  | answers _ hr _ hh _ => exact ⟨hr ▸ rfl, Or.inl (by rw [hh])⟩
  | rests _ hr he => exact ⟨hr ▸ hs, Or.inl (by rw [he])⟩

theorem held?_of_step (hk : opener.Keeps l) {p : P} (h : r.step opener ask e = (.done r', e'))
    (hp : r'.held? = some p) : r.held? = some p ∨ e.desk.handle.pool = some p ∨
      l.opened e'.desk.outside p ≠ none := by
  cases effect_of_step h with
  | finds _ hr => simp [hr, held?, Call.held?] at hp
  | misses _ hr => simp [hr, held?] at hp
  | calls hr hr' hc _ =>
    subst hr hr'
    exact Call.held?_of_step hk hc ((held?_follow _).symm.trans hp)
  | answers _ hr => simp [hr, held?] at hp
  | rests _ hr => exact Or.inl (hr ▸ hp)

/-- The pool that a request is given is at the handle, or it was given before. -/
theorem given?_of_step {p : P} (h : r.step opener ask e = (.done r', e'))
    (hp : r'.given? = some p) : e'.desk.handle.pool = some p ∨ r.given? = some p := by
  cases effect_of_step h with
  | finds _ hr => simp [hr, given?, Call.given?] at hp
  | misses _ hr => simp [hr, given?] at hp
  | calls hr hr' hc _ =>
    subst hr hr'
    exact (Call.given?_of_step hc ((given?_follow _).symm.trans hp)).imp And.right And.right
  | answers _ hr => simp [hr, given?] at hp
  | rests _ hr => exact Or.inr (hr ▸ hp)

/-- A request that is given a pool stays with it until it ends. -/
theorem given?_step {p : P} (hp : r.given? = some p ∨ r.hasEnded = true)
    (h : r.step opener ask e = (.done r', e')) : r'.given? = some p ∨ r'.hasEnded = true := by
  cases effect_of_step h with
  | finds hr => simp [hr, given?, hasEnded] at hp
  | misses hr => simp [hr, given?, hasEnded] at hp
  | calls hr hr' hc _ =>
    subst hr hr'
    have hg := hp.resolve_right nofun
    exact Or.inl ((given?_follow _).trans (Call.given?_step hg hc))
  | answers _ hr => exact Or.inr (hr ▸ rfl)
  | rests _ hr => exact hr ▸ hp

/-- A connection that is not registered is not found. -/
theorem step_arrives (he : e.isRegistered = false)
    (h : (arrives : Request P α).step opener ask e = (.done r', e')) :
    r' = .ended (.error (.connectionNotFound e.desk.handle.id)) := by
  cases effect_of_step h with
  | finds _ _ hreg => nomatch he.symm.trans hreg
  | misses _ hr' => exact hr'
  | calls hr => nomatch hr
  | answers hr => nomatch hr
  | rests hend => nomatch hend

theorem handle_of_stalled (h : r.step opener ask e = (.stalled, e')) :
    e'.desk.handle = e.desk.handle ∧ e'.isRegistered = e.isRegistered := by
  cases r with
  | arrives =>
    cases hr : e.isRegistered <;> simp only [step, Work.bind_apply, Work.state, hr] at h <;>
      cases h
  | calls c =>
    obtain hc | ⟨c', e₁, -, h⟩ := Work.bind_eq_stalled_iff.mp h
    · obtain ⟨d, hd, rfl⟩ := Work.within_eq_iff.mp hc
      exact ⟨(Call.stalled_of_step hd).1, rfl⟩
    · cases h
  | asks p =>
    obtain ha | ⟨x, e₁, -, h⟩ := Work.bind_eq_stalled_iff.mp h
    · obtain ⟨s, -, rfl⟩ := Entry.outward_eq_iff.mp (Work.attempt_eq_stalled_iff.mp ha)
      exact ⟨rfl, rfl⟩
    · cases h
  | ended result => cases h

/-- A request that is given up has ended, and changes nothing but the turn. -/
theorem abandon_done {f : Failure} (h : r.abandon f e = (.done r', e')) :
    r'.hasEnded = true ∧ e'.desk.handle = e.desk.handle ∧
      e'.desk.outside = e.desk.outside ∧ e'.isRegistered = e.isRegistered := by
  cases r with
  | calls c =>
    obtain ⟨c', e₁, hc, h⟩ := Work.bind_eq_done_iff.mp h
    obtain ⟨rfl, rfl⟩ := Work.done_inj h
    obtain ⟨d, hd, rfl⟩ := Work.within_eq_iff.mp hc
    obtain ⟨ho, hh, -, -⟩ := Call.abandon_done hd
    exact ⟨rfl, hh, ho, rfl⟩
  | ended result =>
    obtain ⟨rfl, rfl⟩ := Work.done_inj h
    exact ⟨rfl, rfl, rfl, rfl⟩
  | arrives =>
    obtain ⟨rfl, rfl⟩ := Work.done_inj h
    exact ⟨rfl, rfl, rfl, rfl⟩
  | asks p =>
    obtain ⟨rfl, rfl⟩ := Work.done_inj h
    exact ⟨rfl, rfl, rfl, rfl⟩

theorem step_grows (hk : opener.Keeps l) (ha : ∀ p, (ask p).Moves l.Still) (r : Request P α) :
    (r.step opener ask).Moves (Entry.Grows l) := by
  have hrefl (e : Entry σ P) : Entry.Grows l e e := .refl _
  have htrans (e₁ e₂ e₃ : Entry σ P) (h : Entry.Grows l e₁ e₂) (h' : Entry.Grows l e₂ e₃) :
      Entry.Grows l e₁ e₃ := Ledger.Grows.trans h h'
  cases r with
  | arrives =>
    refine .bind htrans (fun e => hrefl e) fun e => ?_
    split <;> exact .pure hrefl _
  | calls c => exact .bind htrans (Entry.atDesk_grows (c.step_grows hk)) fun _ => .pure hrefl _
  | asks p => exact .bind htrans (Entry.outward_grows (ha p)).attempt fun _ => .pure hrefl _
  | ended result => exact .pure hrefl _

end Request

namespace Removal

variable {store : Store σ T} {opener : Opener σ P} {l : Ledger σ P} {e e' : Entry σ P}
  {r r' : Removal P}

/-- Has the removal let go of the pool at the handle? -/
def hasReleased : Removal P → Bool
  | .finds | .deletes | .closes .releases | .ended (.error _) => false
  | _ => true

theorem follow_ne_ended (c : Call P) (x : Except Failure Unit) : follow c ≠ .ended x := by
  cases c <;> exact nofun

theorem step_grows (hk : opener.Keeps l) (hd : ∀ id, (store.delete none id).Moves l.Still)
    (r : Removal P) : (r.step store opener).Moves (Entry.Grows l) := by
  have hrefl (e : Entry σ P) : Entry.Grows l e e := .refl _
  have htrans (e₁ e₂ e₃ : Entry σ P) (h : Entry.Grows l e₁ e₂) (h' : Entry.Grows l e₂ e₃) :
      Entry.Grows l e₁ e₃ := Ledger.Grows.trans h h'
  cases r with
  | finds =>
    refine .bind htrans (fun e => hrefl e) fun e => ?_
    split <;> exact .pure hrefl _
  | deletes =>
    refine .bind htrans (fun e => hrefl e) fun e => ?_
    refine .bind htrans (Entry.outward_grows (hd _)).attempt fun x => ?_
    split <;> exact .pure hrefl _
  | closes c => exact .bind htrans (Entry.atDesk_grows (c.step_grows hk)) fun _ => .pure hrefl _
  | forgets => exact .bind htrans (fun e => hrefl e) fun _ => .pure hrefl _
  | ended result => exact .pure hrefl _

/-- What a step of a removal changes. -/
inductive Effect (opener : Opener σ P) (e e' : Entry σ P) (r r' : Removal P) : Prop
  | finds : r = .finds → (r' = .deletes ∨ ∃ f, r' = .ended (.error f)) → e' = e →
    Effect opener e e' r r'
  | deletes : r = .deletes → (r' = .closes .releases ∨ ∃ f, r' = .ended (.error f)) →
    e'.desk.handle = e.desk.handle → e'.isRegistered = e.isRegistered → Effect opener e e' r r'
  | closes {c c'} : r = .closes c → r' = follow c' → c.step opener e.desk = (.done c', e'.desk) →
    e'.isRegistered = e.isRegistered → Effect opener e e' r r'
  | forgets : r = .forgets → r' = .ended (.ok ()) → e' = { e with isRegistered := false } →
    Effect opener e e' r r'
  | rests {x} : r = .ended x → r' = r → e' = e → Effect opener e e' r r'

theorem effect_of_step (h : r.step store opener e = (.done r', e')) : Effect opener e e' r r' := by
  cases r with
  | finds =>
    cases hr : e.isRegistered <;> simp only [step, Work.bind_apply, Work.state, hr] at h
    · obtain ⟨rfl, rfl⟩ := Work.done_inj h
      exact .finds rfl (Or.inr ⟨_, rfl⟩) rfl
    · obtain ⟨rfl, rfl⟩ := Work.done_inj h
      exact .finds rfl (Or.inl rfl) rfl
  | deletes =>
    rw [step, Work.bind_of_done (rfl : Work.state e = (.done e, e))] at h
    obtain ⟨x, e₁, ha, h⟩ := Work.bind_eq_done_iff.mp h
    cases x with
    | ok u =>
      obtain ⟨s, -, rfl⟩ := Entry.outward_eq_iff.mp (Work.attempt_eq_ok_iff.mp ha)
      obtain ⟨rfl, rfl⟩ := Work.done_inj h
      exact .deletes rfl (Or.inl rfl) rfl rfl
    | error f =>
      obtain ⟨s, -, rfl⟩ := Entry.outward_eq_iff.mp (Work.attempt_eq_error_iff.mp ha)
      obtain ⟨rfl, rfl⟩ := Work.done_inj h
      exact .deletes rfl (Or.inr ⟨f, rfl⟩) rfl rfl
  | closes c =>
    obtain ⟨c₁, e₁, hc, h⟩ := Work.bind_eq_done_iff.mp h
    obtain ⟨d, hd, rfl⟩ := Work.within_eq_iff.mp hc
    obtain ⟨rfl, rfl⟩ := Work.done_inj h
    exact .closes rfl rfl hd rfl
  | forgets =>
    obtain ⟨rfl, rfl⟩ := Work.done_inj h
    exact .forgets rfl rfl rfl
  | ended result =>
    obtain ⟨rfl, rfl⟩ := Work.done_inj h
    exact .rests rfl rfl rfl

theorem handle_of_stalled (h : r.step store opener e = (.stalled, e')) :
    e'.desk.handle = e.desk.handle ∧ e'.isRegistered = e.isRegistered := by
  cases r with
  | finds =>
    cases hr : e.isRegistered <;> simp only [step, Work.bind_apply, Work.state, hr] at h <;>
      cases h
  | deletes =>
    rw [step, Work.bind_of_done (rfl : Work.state e = (.done e, e))] at h
    obtain ha | ⟨x, e₁, -, h⟩ := Work.bind_eq_stalled_iff.mp h
    · obtain ⟨s, -, rfl⟩ := Entry.outward_eq_iff.mp (Work.attempt_eq_stalled_iff.mp ha)
      exact ⟨rfl, rfl⟩
    · cases x <;> cases h
  | closes c =>
    obtain hc | ⟨c', e₁, -, h⟩ := Work.bind_eq_stalled_iff.mp h
    · obtain ⟨d, hd, rfl⟩ := Work.within_eq_iff.mp hc
      exact ⟨(Call.stalled_of_step hd).1, rfl⟩
    · cases h
  | forgets => cases h
  | ended result => cases h

/-- Letting go of the pool leaves it to be closed. -/
theorem step_releases (h : (closes .releases).step store opener e = (.done r', e')) :
    e'.desk.outside = e.desk.outside ∧ r' = follow (Call.closing e.desk.handle.pool) := by
  obtain ⟨c₁, e₁, hc, h⟩ := Work.bind_eq_done_iff.mp h
  obtain ⟨d, hd, rfl⟩ := Work.within_eq_iff.mp hc
  obtain ⟨rfl, rfl⟩ := Work.done_inj h
  obtain ⟨rfl, rfl⟩ := Work.done_inj hd
  exact ⟨rfl, rfl⟩

/-- A pool that was let go of is closed in one step. -/
theorem step_retires {p : P} (h : (closes (.retires p)).step store opener e = (.done r', e')) :
    opener.close p e.desk.outside = (.done (), e'.desk.outside) := by
  obtain ⟨c₁, e₁, hc, h⟩ := Work.bind_eq_done_iff.mp h
  obtain ⟨d, hd, rfl⟩ := Work.within_eq_iff.mp hc
  obtain ⟨rfl, rfl⟩ := Work.done_inj h
  obtain ⟨⟨⟩, d₁, hw, hd⟩ := Work.bind_eq_done_iff.mp hd
  obtain ⟨s, hs, rfl⟩ := Desk.outward_eq_iff.mp hw
  obtain ⟨rfl, rfl⟩ := Work.done_inj hd
  exact hs

/-- A removal that succeeds takes the connection off the registry last. -/
theorem unregistered_of_step (h : r.step store opener e = (.done (.ended (.ok ())), e')) :
    r = .ended (.ok ()) ∧ e' = e ∨ e'.isRegistered = false := by
  cases effect_of_step h with
  | finds _ hr => rcases hr with hr | ⟨f, hr⟩ <;> nomatch hr
  | deletes _ hr => rcases hr with hr | ⟨f, hr⟩ <;> nomatch hr
  | closes _ hr => exact absurd hr.symm (follow_ne_ended _ _)
  | forgets _ _ he => exact Or.inr (he ▸ rfl)
  | rests _ hr he => exact Or.inl ⟨hr.symm, he⟩

theorem closes_of_unreleased {c : Call P} (hc : r = .closes c) (hr : r.hasReleased = false) :
    r = .closes .releases := by
  subst hc
  cases c with
  | releases => rfl
  | _ => nomatch hr

/-- The pool is let go of in one step. -/
theorem release_eq (h : r.step store opener e = (.done r', e')) (hr : r.hasReleased = false)
    (hr' : r'.hasReleased = true) : r = .closes .releases := by
  cases effect_of_step h with
  | finds _ h => rcases h with rfl | ⟨f, rfl⟩ <;> nomatch hr'
  | deletes _ h => rcases h with rfl | ⟨f, rfl⟩ <;> nomatch hr'
  | closes hc => exact closes_of_unreleased hc hr
  | forgets h =>
    subst h
    nomatch hr
  | rests _ h =>
    rw [h, hr] at hr'
    nomatch hr'

/-- It is let go of for good. -/
theorem hasReleased_step (h : r.step store opener e = (.done r', e')) (hr : r.hasReleased = true) :
    r'.hasReleased = true := by
  cases effect_of_step h with
  | finds h =>
    subst h
    nomatch hr
  | deletes h =>
    subst h
    nomatch hr
  | closes _ hf hc =>
    subst hf
    have hne := Call.step_ne_releases hc
    unfold follow
    split
    · rfl
    · unfold hasReleased
      split <;> simp_all
  | forgets _ h => rw [h]; rfl
  | rests _ h => rw [h, hr]

theorem id_of_step (h : r.step store opener e = (.done r', e')) :
    e'.desk.handle.id = e.desk.handle.id := by
  cases effect_of_step h with
  | finds _ _ he => rw [he]
  | deletes _ _ hh _ => rw [hh]
  | closes _ _ hc _ => exact Call.id_of_step hc
  | forgets _ _ he => rw [he]
  | rests _ _ he => rw [he]

/-- Up to there the handle is left alone. -/
theorem handle_of_unreleased (h : r.step store opener e = (.done r', e'))
    (hr : r.hasReleased = false) (hr' : r'.hasReleased = false) :
    e'.desk.handle = e.desk.handle ∧ e'.isRegistered = e.isRegistered := by
  cases effect_of_step h with
  | finds _ _ he => exact he ▸ ⟨rfl, rfl⟩
  | deletes _ _ hh hi => exact ⟨hh, hi⟩
  | closes hc =>
    obtain rfl := closes_of_unreleased hc hr
    rw [(step_releases h).2] at hr'
    cases hp : e.desk.handle.pool <;> rw [hp] at hr' <;> nomatch hr'
  | forgets _ h =>
    subst h
    nomatch hr'
  | rests _ _ he => exact he ▸ ⟨rfl, rfl⟩

end Removal

end SqlGateway
