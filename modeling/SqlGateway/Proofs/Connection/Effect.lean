import SqlGateway.Connection.Call
import SqlGateway.Proofs.Work.Ends

/-! What a step of a caller comes to. Of the handle, of the pools and of what the caller has in hand,
    a step changes as much as one of these:

        step                  handle                in hand          pools
        rests                 -                     -                -
        opens                 -                     gets p           p is opened
        fails                 -                     -                none is opened
        keeps                 gets p                gives p          -
        closes                -                     gives p          p is closed
        swaps                 gets p, gives q       gives p, gets q  -
        releases              gives q               gets q           -                            -/

namespace SqlGateway

variable {σ P ε α : Type}

/-- Books of the pools: what each was opened for, and which are closed. -/
structure Ledger (σ P : Type) where
  opened : σ → P → Option ConnectionInfo
  closed : σ → P → Prop

/-- Nothing is opened or closed between two states. -/
def Ledger.Still (l : Ledger σ P) (s s' : σ) : Prop :=
  l.opened s' = l.opened s ∧ l.closed s' = l.closed s

/-- Pools are opened one at a time, each for the details asked for, and closed one at a time. -/
structure Opener.Keeps (opener : Opener σ P) (l : Ledger σ P) : Prop where
  connect_fresh : ∀ {s s' info p}, opener.connect info s = (.done p, s') → l.opened s p = none
  connect_done : ∀ {s s' info p}, opener.connect info s = (.done p, s') →
    l.opened s' p = some info ∧ ¬ l.closed s' p
  connect_others : ∀ {s s' info p q}, opener.connect info s = (.done p, s') → q ≠ p →
    l.opened s' q = l.opened s q ∧ (l.closed s' q ↔ l.closed s q)
  connect_failed : ∀ {s s' info e}, opener.connect info s = (.failed e, s') → l.Still s s'
  connect_stalled : ∀ {s s' info}, opener.connect info s = (.stalled, s') → l.Still s s'
  close_opened : ∀ {s s' o p}, opener.close p s = (o, s') → l.opened s' = l.opened s
  close_done : ∀ {s s' p}, opener.close p s = (.done (), s') → l.closed s' p
  close_others : ∀ {s s' o p q}, opener.close p s = (o, s') → q ≠ p →
    (l.closed s' q ↔ l.closed s q)
  close_again : ∀ {s s' o p}, opener.close p s = (o, s') → l.closed s p → l.closed s' p

/-! ### Pools in memory -/

/-- For each pool what it was opened for, and whether it is closed. -/
abbrev Books := List (ConnectionInfo × Bool)

namespace Books

def ledger : Ledger Books Nat where
  opened s p := s[p]?.map Prod.fst
  closed s p := s[p]?.map Prod.snd ≠ some false

/-- Opens everything but hosts without a name. -/
def connect (info : ConnectionInfo) : Work Books Failure Nat := fun s =>
  if info.driver ≠ .sqlite ∧ info.host = "" then (.failed (.connectionFailed "no host" ""), s)
  else (.done s.length, s ++ [(info, false)])

def opener : Opener Books Nat where
  connect := connect
  close p s := (.done (), s.modify p fun e => (e.1, true))

theorem connect_eq {info : ConnectionInfo} {s s' : Books} {o : Outcome Failure Nat}
    (h : connect info s = (o, s')) :
    (∃ e, o = .failed e) ∧ s' = s ∨ o = .done s.length ∧ s' = s ++ [(info, false)] := by
  rw [connect] at h
  split at h <;> obtain ⟨rfl, rfl⟩ := Prod.mk.inj h
  · exact Or.inl ⟨⟨_, rfl⟩, rfl⟩
  · exact Or.inr ⟨rfl, rfl⟩

theorem opener_keeps : opener.Keeps ledger where
  connect_fresh {s s' info p} h := by
    obtain ⟨⟨e, he⟩, -⟩ | ⟨ho, -⟩ := connect_eq h
    · simp at he
    · obtain rfl := Outcome.done.inj ho
      simp [ledger]
  connect_done {s s' info p} h := by
    obtain ⟨⟨e, he⟩, -⟩ | ⟨ho, rfl⟩ := connect_eq h
    · simp at he
    · obtain rfl := Outcome.done.inj ho
      simp [ledger]
  connect_others {s s' info p q} h hq := by
    obtain ⟨⟨e, he⟩, -⟩ | ⟨ho, rfl⟩ := connect_eq h
    · simp at he
    · obtain rfl := Outcome.done.inj ho
      have hs : (s ++ [(info, false)])[q]? = s[q]? := by
        rcases Nat.lt_or_gt_of_ne hq with hl | hg
        · exact List.getElem?_append_left hl
        · rw [List.getElem?_eq_none (by simp; omega), List.getElem?_eq_none (by omega)]
      simp [ledger, hs]
  connect_failed {s s' info e} h := by
    obtain ⟨-, rfl⟩ | ⟨ho, -⟩ := connect_eq h
    · exact ⟨rfl, rfl⟩
    · simp at ho
  connect_stalled {s s' info} h := by
    obtain ⟨⟨e, he⟩, -⟩ | ⟨ho, -⟩ := connect_eq h
    · simp at he
    · simp at ho
  close_opened {s s' o p} h := by
    obtain ⟨-, rfl⟩ := Prod.mk.inj h
    funext q
    simp only [ledger, List.getElem?_modify]
    split <;> cases s[q]? <;> rfl
  close_done {s s' p} h := by
    obtain ⟨-, rfl⟩ := Prod.mk.inj h
    simp only [ledger, List.getElem?_modify, if_pos]
    cases s[p]? <;> simp
  close_others {s s' o p q} h hq := by
    obtain ⟨-, rfl⟩ := Prod.mk.inj h
    simp [ledger, Ne.symm hq]
  close_again {s s' o p} h _ := by
    obtain ⟨-, rfl⟩ := Prod.mk.inj h
    simp only [ledger, List.getElem?_modify, if_pos]
    cases s[p]? <;> simp

end Books

namespace Call

/-- The pool that a caller has in hand. -/
def held? : Call P → Option P
  | .brings _ pool | .discards pool _ | .installs _ pool | .retires pool => some pool
  | _ => none

/-- The pool in hand that may still come to the handle, with what it was opened for. -/
def offer? : Call P → Option (ConnectionInfo × P)
  | .brings info pool | .installs info pool => some (info, pool)
  | _ => none

/-- The pool that a caller is given, or will be once it has closed another one. -/
def given? : Call P → Option P
  | .discards _ existing => existing
  | .ended (.ok pool) => pool
  | _ => none

/-- Is the next step a look at the handle? -/
def isLook : Call P → Bool
  | .asks | .looks | .brings .. => true
  | _ => false

theorem held?_of_offer? {c : Call P} {info : ConnectionInfo} {p : P}
    (h : c.offer? = some (info, p)) : c.held? = some p := by
  cases c <;> simp_all [offer?, held?]

theorem offer?_of_not_held? {c : Call P} (h : c.held? = none) : c.offer? = none := by
  cases c <;> simp_all [offer?, held?]

@[simp] theorem held?_closing (old : Option P) : (closing old).held? = old := by
  cases old <;> rfl

@[simp] theorem offer?_closing (old : Option P) : (closing old).offer? = none := by
  cases old <;> rfl

@[simp] theorem given?_closing (old : Option P) : (closing old).given? = none := by
  cases old <;> rfl

/-- What a step changes. -/
inductive Effect (opener : Opener σ P) (d d' : Desk σ P) (c c' : Call P) : Prop
  | rests : d'.outside = d.outside → d'.handle = d.handle → c'.held? = c.held? →
    (∀ offer, c'.offer? = some offer → c.offer? = some offer) → Effect opener d d' c c'
  | opens {info p} : opener.connect info d.outside = (.done p, d'.outside) →
    d'.handle = d.handle → c.held? = none → c'.held? = some p →
    (∀ offer, c'.offer? = some offer → offer = (info, p)) → Effect opener d d' c c'
  | fails {info e} : opener.connect info d.outside = (.failed e, d'.outside) →
    d'.handle = d.handle → c.held? = none → c'.held? = none → Effect opener d d' c c'
  | keeps {info p} : d'.outside = d.outside → c.offer? = some (info, p) →
    d.handle.pool = none → d.handle.info = info → d'.handle = { d.handle with pool := some p } →
    c'.held? = none → Effect opener d d' c c'
  | closes {p} : opener.close p d.outside = (.done (), d'.outside) → d'.handle = d.handle →
    c.held? = some p → c'.held? = none → Effect opener d d' c c'
  | swaps {info p} : d'.outside = d.outside → c.offer? = some (info, p) →
    d'.handle = d.handle.install info p → c'.held? = d.handle.pool → c'.offer? = none →
    Effect opener d d' c c'
  | releases : d'.outside = d.outside → c.held? = none → d'.handle = d.handle.release →
    c'.held? = d.handle.pool → c'.offer? = none → Effect opener d d' c c'

end Call

namespace Desk

variable {d d' : Desk σ P}

theorem outward_eq_iff {w : Work σ ε α} {o : Outcome ε α} :
    outward w d = (o, d') ↔ ∃ s, w d.outside = (o, s) ∧ d' = { d with outside := s } :=
  Work.within_eq_iff

end Desk

namespace Call

variable {opener : Opener σ P} {d d' : Desk σ P} {c c' : Call P}

/-! ### Steps that look at the desk -/

theorem step_asks (d : Desk σ P) : (asks : Call P).step opener d =
    match d.handle.pool with
    | some p => (.done (.ended (.ok (some p))), d)
    | none => (.done .waits, d) := by
  show (match d.handle.pool with
    | some p => (pure (.ended (.ok (some p))) : Work (Desk σ P) Empty (Call P))
    | none => pure .waits) d = _
  cases d.handle.pool <;> rfl

theorem step_waits (d : Desk σ P) : (waits : Call P).step opener d =
    if d.isTaken then (.done .waits, d) else (.done .looks, { d with isTaken := true }) := by
  show (if d.isTaken then (pure .waits : Work (Desk σ P) Empty (Call P)) else _) d = _
  split <;> rfl

theorem step_looks (d : Desk σ P) : (looks : Call P).step opener d =
    match d.handle.pool with
    | some p => (.done (.ended (.ok (some p))), { d with isTaken := false })
    | none => (.done (.opens d.handle.info), d) := by
  show (match d.handle.pool with
    | some p => (do Desk.yield; pure (.ended (.ok (some p))) : Work (Desk σ P) Empty (Call P))
    | none => pure (.opens d.handle.info)) d = _
  cases d.handle.pool <;> rfl

theorem step_brings (info : ConnectionInfo) (p : P) (d : Desk σ P) :
    (brings info p).step opener d =
      match d.handle.pool with
      | some existing => (.done (.discards p (some existing)), d)
      | none =>
        if d.handle.info = info then
          (.done (.ended (.ok (some p))),
            { d with handle := { d.handle with pool := some p }, isTaken := false })
        else (.done (.discards p none), d) := by
  cases hp : d.handle.pool with
  | some existing =>
    simp only [step, Bind.bind, Work.state, Handle.arrive, hp]
    rfl
  | none =>
    by_cases hi : d.handle.info = info
    · simp only [step, Bind.bind, Work.state, Handle.arrive, hp, if_pos hi]
      rfl
    · simp only [step, Bind.bind, Work.state, Handle.arrive, hp, if_neg hi]
      rfl

/-- Every step that is done has one of the effects. -/
theorem effect_of_step (h : c.step opener d = (.done c', d')) : Effect opener d d' c c' := by
  cases c with
  | asks =>
    rw [step_asks] at h
    cases hp : d.handle.pool with
    | none =>
      rw [hp] at h
      obtain ⟨rfl, rfl⟩ := Work.done_inj h
      exact .rests rfl rfl rfl fun _ ho => ho
    | some p =>
      rw [hp] at h
      obtain ⟨rfl, rfl⟩ := Work.done_inj h
      exact .rests rfl rfl rfl fun _ ho => ho
  | waits =>
    rw [step_waits] at h
    split at h <;> obtain ⟨rfl, rfl⟩ := Work.done_inj h <;>
      exact .rests rfl rfl rfl fun _ ho => ho
  | looks =>
    rw [step_looks] at h
    cases hp : d.handle.pool with
    | none =>
      rw [hp] at h
      obtain ⟨rfl, rfl⟩ := Work.done_inj h
      exact .rests rfl rfl rfl fun _ ho => ho
    | some p =>
      rw [hp] at h
      obtain ⟨rfl, rfl⟩ := Work.done_inj h
      exact .rests rfl rfl rfl fun _ ho => ho
  | opens info =>
    obtain ⟨r, d₁, ha, h⟩ := Work.bind_eq_done_iff.mp h
    cases r with
    | ok p =>
      obtain ⟨s, hc, rfl⟩ := Desk.outward_eq_iff.mp (Work.attempt_eq_ok_iff.mp ha)
      obtain ⟨rfl, rfl⟩ := Work.done_inj h
      exact .opens hc rfl rfl rfl fun offer ho => (Option.some.inj ho).symm
    | error f =>
      obtain ⟨s, hc, rfl⟩ := Desk.outward_eq_iff.mp (Work.attempt_eq_error_iff.mp ha)
      obtain ⟨rfl, rfl⟩ := Work.done_inj h
      exact .fails hc rfl rfl rfl
  | brings info p =>
    rw [step_brings] at h
    cases hp : d.handle.pool with
    | some existing =>
      rw [hp] at h
      obtain ⟨rfl, rfl⟩ := Work.done_inj h
      exact .rests rfl rfl rfl fun _ ho => by simp [offer?] at ho
    | none =>
      simp only [hp] at h
      split at h
      · next hi =>
        obtain ⟨rfl, rfl⟩ := Work.done_inj h
        exact .keeps rfl rfl hp hi rfl rfl
      · obtain ⟨rfl, rfl⟩ := Work.done_inj h
        exact .rests rfl rfl rfl fun _ ho => by simp [offer?] at ho
  | discards p existing =>
    obtain ⟨⟨⟩, d₁, hw, h⟩ := Work.bind_eq_done_iff.mp h
    obtain ⟨s, hc, rfl⟩ := Desk.outward_eq_iff.mp hw
    cases existing <;> obtain ⟨rfl, rfl⟩ := Work.done_inj h <;> exact .closes hc rfl rfl rfl
  | replaces info =>
    obtain ⟨r, d₁, ha, h⟩ := Work.bind_eq_done_iff.mp h
    cases r with
    | ok p =>
      obtain ⟨s, hc, rfl⟩ := Desk.outward_eq_iff.mp (Work.attempt_eq_ok_iff.mp ha)
      obtain ⟨rfl, rfl⟩ := Work.done_inj h
      exact .opens hc rfl rfl rfl fun offer ho => (Option.some.inj ho).symm
    | error f =>
      obtain ⟨s, hc, rfl⟩ := Desk.outward_eq_iff.mp (Work.attempt_eq_error_iff.mp ha)
      obtain ⟨rfl, rfl⟩ := Work.done_inj h
      exact .fails hc rfl rfl rfl
  | installs info p =>
    obtain ⟨rfl, rfl⟩ := Work.done_inj h
    exact .swaps rfl rfl rfl (held?_closing _) (offer?_closing _)
  | releases =>
    obtain ⟨rfl, rfl⟩ := Work.done_inj h
    exact .releases rfl rfl rfl (held?_closing _) (offer?_closing _)
  | retires p =>
    obtain ⟨⟨⟩, d₁, hw, h⟩ := Work.bind_eq_done_iff.mp h
    obtain ⟨s, hc, rfl⟩ := Desk.outward_eq_iff.mp hw
    obtain ⟨rfl, rfl⟩ := Work.done_inj h
    exact .closes hc rfl rfl rfl
  | ended result =>
    obtain ⟨rfl, rfl⟩ := Work.done_inj h
    exact .rests rfl rfl rfl fun _ ho => ho

/-- What a caller is given is what the handle had at its last look. -/
theorem given?_of_step {p : P} (h : c.step opener d = (.done c', d')) (hg : c'.given? = some p) :
    c.isLook = true ∧ d'.handle.pool = some p ∨ c.isLook = false ∧ c.given? = some p := by
  cases c with
  | asks =>
    rw [step_asks] at h
    cases hp : d.handle.pool with
    | none =>
      rw [hp] at h
      obtain ⟨rfl, rfl⟩ := Work.done_inj h
      simp [given?] at hg
    | some q =>
      rw [hp] at h
      obtain ⟨rfl, rfl⟩ := Work.done_inj h
      exact Or.inl ⟨rfl, hp.trans hg⟩
  | waits =>
    rw [step_waits] at h
    split at h <;> obtain ⟨rfl, rfl⟩ := Work.done_inj h <;> simp [given?] at hg
  | looks =>
    rw [step_looks] at h
    cases hp : d.handle.pool with
    | none =>
      rw [hp] at h
      obtain ⟨rfl, rfl⟩ := Work.done_inj h
      simp [given?] at hg
    | some q =>
      rw [hp] at h
      obtain ⟨rfl, rfl⟩ := Work.done_inj h
      exact Or.inl ⟨rfl, hp.trans hg⟩
  | opens info =>
    obtain ⟨r, d₁, -, h⟩ := Work.bind_eq_done_iff.mp h
    cases r <;> obtain ⟨rfl, rfl⟩ := Work.done_inj h <;> simp [given?] at hg
  | brings info q =>
    rw [step_brings] at h
    cases hp : d.handle.pool with
    | some existing =>
      rw [hp] at h
      obtain ⟨rfl, rfl⟩ := Work.done_inj h
      exact Or.inl ⟨rfl, hp.trans hg⟩
    | none =>
      simp only [hp] at h
      split at h <;> obtain ⟨rfl, rfl⟩ := Work.done_inj h
      · exact Or.inl ⟨rfl, hg⟩
      · simp [given?] at hg
  | discards q existing =>
    obtain ⟨⟨⟩, d₁, -, h⟩ := Work.bind_eq_done_iff.mp h
    cases existing <;> obtain ⟨rfl, rfl⟩ := Work.done_inj h
    · simp [given?] at hg
    · exact Or.inr ⟨rfl, hg⟩
  | replaces info =>
    obtain ⟨r, d₁, -, h⟩ := Work.bind_eq_done_iff.mp h
    cases r <;> obtain ⟨rfl, rfl⟩ := Work.done_inj h <;> simp [given?] at hg
  | installs info q =>
    obtain ⟨rfl, rfl⟩ := Work.done_inj h
    simp at hg
  | releases =>
    obtain ⟨rfl, rfl⟩ := Work.done_inj h
    simp at hg
  | retires q =>
    obtain ⟨⟨⟩, d₁, -, h⟩ := Work.bind_eq_done_iff.mp h
    obtain ⟨rfl, rfl⟩ := Work.done_inj h
    simp [given?] at hg
  | ended result =>
    obtain ⟨rfl, rfl⟩ := Work.done_inj h
    exact Or.inr ⟨rfl, hg⟩

/-- A step that stalls is at work outside, on a pool to be opened or on the one in hand. -/
theorem stalled_of_step (h : c.step opener d = (.stalled, d')) : d'.handle = d.handle ∧
    ((∃ info, opener.connect info d.outside = (.stalled, d'.outside)) ∨
      ∃ p, c.held? = some p ∧ c.offer? = none ∧
        opener.close p d.outside = (.stalled, d'.outside)) := by
  have hconn (info : ConnectionInfo) {k : Except Failure P → Work (Desk σ P) Empty (Call P)}
      (hk : ∀ r d₁ d₂, k r d₁ ≠ (.stalled, d₂))
      (h : ((Desk.outward (opener.connect info)).attempt >>= k) d = (.stalled, d')) :
      d'.handle = d.handle ∧ ∃ info, opener.connect info d.outside = (.stalled, d'.outside) := by
    rcases Work.bind_eq_stalled_iff.mp h with h | ⟨r, d₁, -, h⟩
    · obtain ⟨s, hc, rfl⟩ := Desk.outward_eq_iff.mp (Work.attempt_eq_stalled_iff.mp h)
      exact ⟨rfl, info, hc⟩
    · exact absurd h (hk r d₁ d')
  have hclose (p : P) {k : Unit → Work (Desk σ P) Empty (Call P)}
      (hk : ∀ d₁ d₂, k () d₁ ≠ (.stalled, d₂))
      (h : (Desk.outward (opener.close p) >>= k) d = (.stalled, d')) :
      d'.handle = d.handle ∧ opener.close p d.outside = (.stalled, d'.outside) := by
    rcases Work.bind_eq_stalled_iff.mp h with h | ⟨⟨⟩, d₁, -, h⟩
    · obtain ⟨s, hc, rfl⟩ := Desk.outward_eq_iff.mp h
      exact ⟨rfl, hc⟩
    · exact absurd h (hk d₁ d')
  cases c with
  | asks =>
    rw [step_asks] at h
    cases hp : d.handle.pool <;> simp [hp] at h
  | waits =>
    rw [step_waits] at h
    split at h <;> simp at h
  | looks =>
    rw [step_looks] at h
    cases hp : d.handle.pool <;> simp [hp] at h
  | opens info =>
    obtain ⟨hh, hc⟩ := hconn info (fun r d₁ d₂ => by cases r <;> rintro ⟨⟩) h
    exact ⟨hh, Or.inl hc⟩
  | brings info q =>
    rw [step_brings] at h
    cases hp : d.handle.pool with
    | some existing => simp [hp] at h
    | none =>
      simp only [hp] at h
      split at h <;> simp at h
  | discards p existing =>
    obtain ⟨hh, hc⟩ := hclose p (fun d₁ d₂ => by cases existing <;> rintro ⟨⟩) h
    exact ⟨hh, Or.inr ⟨p, rfl, rfl, hc⟩⟩
  | replaces info =>
    obtain ⟨hh, hc⟩ := hconn info (fun r d₁ d₂ => by cases r <;> rintro ⟨⟩) h
    exact ⟨hh, Or.inl hc⟩
  | installs info q => cases h
  | releases => cases h
  | retires p =>
    obtain ⟨hh, hc⟩ := hclose p (fun d₁ d₂ => by rintro ⟨⟩) h
    exact ⟨hh, Or.inr ⟨p, rfl, rfl, hc⟩⟩
  | ended result => cases h

/-- A caller that is given up lets go of what it holds, and changes nothing else. -/
theorem abandon_done {f : Failure} (h : c.abandon f d = (.done c', d')) :
    d'.outside = d.outside ∧ d'.handle = d.handle ∧ c'.held? = none ∧
      ∀ p, c'.given? = some p → c.given? = some p := by
  cases c <;> obtain ⟨rfl, rfl⟩ := Work.done_inj h <;>
    exact ⟨rfl, rfl, rfl, fun p hp => by first | exact hp | simp [given?] at hp⟩

end Call

end SqlGateway
