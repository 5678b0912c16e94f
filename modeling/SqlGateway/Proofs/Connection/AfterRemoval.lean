import SqlGateway.Failure.Fault
import SqlGateway.Proofs.Connection.RemovalStep
import Mathlib.Logic.Relation

/-! Requests for a connection that is being removed. However their steps are interleaved with those
    of the removal, whether pools can be opened or not, and wherever requests are given up, once the
    removal has ended

        it had not been looked up yet             it is not found
        its pool was given before the release     the pool is closed, and the request fails
        neither                                   the handle may be opened again, and asked

    Nothing marks a connection as removed: who holds its handle may open it as before. -/

namespace SqlGateway.Removal

variable {σ P T α : Type}

/-- A connection with the requests for it and its removal. -/
structure Scene (σ P α : Type) where
  entry : Entry σ P
  requests : List (Request P α)
  removal : Removal P

namespace Scene

section Moves

variable (store : Store σ T) (opener : Opener σ P) (ask : Nat → P → Work σ Failure α)
  (l : Ledger σ P)

/-- A request or the removal takes a step or is held up in it, a request is given up, or time goes
    by outside. -/
inductive Moves : Scene σ P α → Scene σ P α → Prop
  | request {s : Scene σ P α} {i : Nat} {r r' : Request P α} {e : Entry σ P} :
    s.requests[i]? = some r → r.step opener (ask i) s.entry = (.done r', e) →
    Moves s { s with entry := e, requests := s.requests.set i r' }
  | stall {s : Scene σ P α} {i : Nat} {r : Request P α} {e : Entry σ P} :
    s.requests[i]? = some r → r.step opener (ask i) s.entry = (.stalled, e) →
    Moves s { s with entry := e }
  | abandon {s : Scene σ P α} {i : Nat} {r r' : Request P α} {e : Entry σ P} (f : Failure) :
    s.requests[i]? = some r → r.abandon f s.entry = (.done r', e) →
    Moves s { s with entry := e, requests := s.requests.set i r' }
  | removal {s : Scene σ P α} {r : Removal P} {e : Entry σ P} :
    s.removal.step store opener s.entry = (.done r, e) →
    Moves s { s with entry := e, removal := r }
  | linger {s : Scene σ P α} {e : Entry σ P} :
    s.removal.step store opener s.entry = (.stalled, e) → Moves s { s with entry := e }
  | elapse {s : Scene σ P α} {o : σ} : l.Still s.entry.desk.outside o →
    Moves s { s with entry := { s.entry with desk := { s.entry.desk with outside := o } } }

/-- Any number of moves. -/
def Reaches : Scene σ P α → Scene σ P α → Prop := Relation.ReflTransGen (Moves store opener ask l)

/-- The move in which the removal lets go of the pool of the handle. -/
structure Releases (s t : Scene σ P α) : Prop where
  moves : Moves store opener ask l s t
  before : s.removal.hasReleased = false
  after : t.removal.hasReleased = true

/-- The move in which a request that has not ended is given up. -/
inductive GivesUp (i : Nat) (f : Failure) (s : Scene σ P α) : Scene σ P α → Prop
  | abandon {r r' : Request P α} {e : Entry σ P} : s.requests[i]? = some r → r.hasEnded = false →
    r.abandon f s.entry = (.done r', e) →
    GivesUp i f s { s with entry := e, requests := s.requests.set i r' }

/-- What becomes between two scenes of a request that does not find the connection: it fails for
    that reason, unless it is given up before. -/
inductive Missed (id : String) (i : Nat) (s t : Scene σ P α) : Prop
  | arrives : t.requests[i]? = some .arrives → Missed id i s t
  | notFound : t.requests[i]? = some (.ended (.error (.connectionNotFound id))) → Missed id i s t
  | givenUp {v w : Scene σ P α} {f : Failure} : Reaches store opener ask l s v → GivesUp i f v w →
    Reaches store opener ask l w t → t.requests[i]? = some (.ended (.error f)) → Missed id i s t

end Moves

/-- Nobody has begun; a pool that is there was opened. -/
structure IsStart (l : Ledger σ P) (s : Scene σ P α) : Prop where
  isRegistered : s.entry.isRegistered = true
  requests : ∀ r ∈ s.requests, r = .arrives
  removal : s.removal = .finds
  pool : ∀ p, s.entry.desk.handle.pool = some p → l.opened s.entry.desk.outside p ≠ none

/-- Until the pool is let go of: a pool that was given is the one at the handle. -/
structure Intact (l : Ledger σ P) (s : Scene σ P α) : Prop where
  isRegistered : s.entry.isRegistered = true
  pool : ∀ p, s.entry.desk.handle.pool = some p → l.opened s.entry.desk.outside p ≠ none
  seeks : ∀ r ∈ s.requests, r.seeks = true
  held : ∀ r ∈ s.requests, ∀ p, r.held? = some p → l.opened s.entry.desk.outside p ≠ none
  given : ∀ r ∈ s.requests, ∀ p, r.given? = some p → s.entry.desk.handle.pool = some p

/-- From there on: the pool that a request was given is about to be closed, or is. -/
structure Doomed (l : Ledger σ P) (i : Nat) (p : P) (s : Scene σ P α) : Prop where
  opened : l.opened s.entry.desk.outside p ≠ none
  retired : s.removal = .closes (.retires p) ∨ l.closed s.entry.desk.outside p
  request : ∃ r, s.requests[i]? = some r ∧ (r.given? = some p ∨ r.hasEnded = true)

variable {store : Store σ T} {opener : Opener σ P} {ask : Nat → P → Work σ Failure α}
  {l : Ledger σ P} {s t : Scene σ P α} {i : Nat}

theorem getElem?_set_of_some {β : Type} {bs : List β} {b b' : β} {i : Nat} (h : bs[i]? = some b) :
    (bs.set i b')[i]? = some b' :=
  List.getElem?_set_self (List.getElem?_eq_some_iff.mp h).1

/-- A move leaves a request alone, or the request takes a step in it, or is given up. -/
theorem Moves.request_cases (h : Moves store opener ask l s t) {r : Request P α}
    (hi : s.requests[i]? = some r) : t.requests[i]? = some r ∨ ∃ r', t.requests[i]? = some r' ∧
      (r.step opener (ask i) s.entry = (.done r', t.entry) ∨
        ∃ f, r.abandon f s.entry = (.done r', t.entry) ∧ (r.hasEnded = false → GivesUp i f s t)) := by
  cases h with
  | request hj h =>
    rename_i j r₁ r₂ e
    by_cases hji : j = i
    · subst hji
      obtain rfl := Option.some.inj (hi.symm.trans hj)
      exact Or.inr ⟨r₂, getElem?_set_of_some hj, Or.inl h⟩
    · exact Or.inl ((List.getElem?_set_ne hji).trans hi)
  | stall hj h => exact Or.inl hi
  | abandon f hj h =>
    rename_i j r₁ r₂ e
    by_cases hji : j = i
    · subst hji
      obtain rfl := Option.some.inj (hi.symm.trans hj)
      exact Or.inr ⟨r₂, getElem?_set_of_some hj, Or.inr ⟨f, h, fun hr => .abandon hj hr h⟩⟩
    · exact Or.inl ((List.getElem?_set_ne hji).trans hi)
  | removal h => exact Or.inl hi
  | linger h => exact Or.inl hi
  | elapse ho => exact Or.inl hi

/-- A request that has ended stays so. -/
theorem Moves.request_ended (h : Moves store opener ask l s t) {x : Except Failure α}
    (hi : s.requests[i]? = some (.ended x)) : t.requests[i]? = some (.ended x) := by
  obtain hi' | ⟨r', hi', h | ⟨f, h, -⟩⟩ := h.request_cases hi
  · exact hi'
  · obtain ⟨rfl, -⟩ := Work.done_inj h
    exact hi'
  · obtain ⟨rfl, -⟩ := Work.done_inj h
    exact hi'

/-- All along it is the same connection. -/
theorem Moves.id_eq (h : Moves store opener ask l s t) :
    t.entry.desk.handle.id = s.entry.desk.handle.id := by
  cases h with
  | request hi h => exact Request.id_of_step h
  | stall hi h => exact congrArg Handle.id (Request.handle_of_stalled h).1
  | abandon f hi h =>
    obtain ⟨-, hh, -⟩ := Request.abandon_done h
    exact congrArg Handle.id hh
  | removal h => exact Removal.id_of_step h
  | linger h => exact congrArg Handle.id (Removal.handle_of_stalled h).1
  | elapse ho => rfl

/-- What was let go of stays so. -/
theorem Moves.hasReleased (h : Moves store opener ask l s t)
    (hs : s.removal.hasReleased = true) : t.removal.hasReleased = true := by
  cases h with
  | removal h => exact Removal.hasReleased_step h hs
  | _ => exact hs

theorem Moves.grows (hk : opener.Keeps l) (hq : Quiet store ask l)
    (h : Moves store opener ask l s t) : Entry.Grows l s.entry t.entry := by
  cases h with
  | request hi h => exact (Request.step_grows hk (hq.asks _) _).apply h
  | stall hi h => exact (Request.step_grows hk (hq.asks _) _).apply h
  | abandon f hi h =>
    obtain ⟨-, -, ho, -⟩ := Request.abandon_done h
    exact Ledger.Still.grows ⟨by rw [ho], by rw [ho]⟩
  | removal h => exact (Removal.step_grows hk hq.deletes _).apply h
  | linger h => exact (Removal.step_grows hk hq.deletes _).apply h
  | elapse ho => exact ho.grows

/-! ### Until the release -/

/-- A request has taken a step, or was given up. -/
theorem Intact.set (hs : Intact l s) {i : Nat} {r' : Request P α} {e : Entry σ P}
    (hg : Entry.Grows l s.entry e) (hr : e.isRegistered = s.entry.isRegistered)
    (hstays : ∀ p, s.entry.desk.handle.pool = some p → e.desk.handle.pool = some p)
    (hpool : ∀ p, e.desk.handle.pool = some p → l.opened e.desk.outside p ≠ none)
    (hseeks : r'.seeks = true)
    (hheld : ∀ p, r'.held? = some p → l.opened e.desk.outside p ≠ none)
    (hgiven : ∀ p, r'.given? = some p → e.desk.handle.pool = some p) :
    Intact l { s with entry := e, requests := s.requests.set i r' } where
  isRegistered := hr.trans hs.isRegistered
  pool := hpool
  seeks r hm := (List.mem_or_eq_of_mem_set hm).elim (hs.seeks r) fun h => h ▸ hseeks
  held r hm p hp := (List.mem_or_eq_of_mem_set hm).elim
    (fun hm => hg.opened p (hs.held r hm p hp)) fun h => hheld p (h ▸ hp)
  given r hm p hp := (List.mem_or_eq_of_mem_set hm).elim
    (fun hm => hstays p (hs.given r hm p hp)) fun h => hgiven p (h ▸ hp)

/-- Nothing has happened but outside. -/
theorem Intact.still (hs : Intact l s) (hq : t.requests = s.requests)
    (hg : Entry.Grows l s.entry t.entry) (hr : t.entry.isRegistered = s.entry.isRegistered)
    (hh : t.entry.desk.handle = s.entry.desk.handle) : Intact l t where
  isRegistered := hr.trans hs.isRegistered
  pool p hp := hg.opened p (hs.pool p (hh ▸ hp))
  seeks := hq ▸ hs.seeks
  held r hm p hp := hg.opened p (hs.held r (hq ▸ hm) p hp)
  given r hm p hp := hh ▸ hs.given r (hq ▸ hm) p hp

theorem Intact.moves (hk : opener.Keeps l) (hq : Quiet store ask l) (hs : Intact l s)
    (h : Moves store opener ask l s t) (hb : s.removal.hasReleased = false)
    (ha : t.removal.hasReleased = false) : Intact l t := by
  have hg := h.grows hk hq
  cases h with
  | request hi h =>
    have hm := List.mem_of_getElem? hi
    obtain ⟨hseeks, hpool⟩ := Request.pool_of_step (hs.seeks _ hm) h
    have hstays (p : P) (hp : s.entry.desk.handle.pool = some p) := hpool.resolve_right
      fun hn => by simp [hp] at hn
    refine hs.set hg (Request.isRegistered_of_step h) (fun p hp => (hstays p hp).trans hp)
      (fun p hp => ?_) hseeks (fun p hp => ?_) fun p hp => ?_
    · rcases hpool with he | ⟨-, he⟩
      · exact hg.opened p (hs.pool p (he ▸ hp))
      · exact hg.opened p (hs.held _ hm p (he.trans hp))
    · rcases Request.held?_of_step hk h hp with hh | hh | ho
      · exact hg.opened p (hs.held _ hm p hh)
      · exact hg.opened p (hs.pool p hh)
      · exact ho
    · rcases Request.given?_of_step h hp with hh | hh
      · exact hh
      · have hp := hs.given _ hm p hh
        exact (hstays p hp).trans hp
  | stall hi h =>
    obtain ⟨hh, hr⟩ := Request.handle_of_stalled h
    exact hs.still rfl hg hr hh
  | abandon f hi h =>
    obtain ⟨hend, hh, ho, hr⟩ := Request.abandon_done h
    rename_i i r r' e
    obtain ⟨x, rfl⟩ : ∃ x, r' = .ended x := by
      cases r' with
      | ended x => exact ⟨x, rfl⟩
      | _ => nomatch hend
    exact hs.set hg hr (fun p hp => hh ▸ hp) (fun p hp => hg.opened p (hs.pool p (hh ▸ hp))) rfl
      nofun nofun
  | removal h =>
    obtain ⟨hh, hr⟩ := Removal.handle_of_unreleased h hb ha
    exact hs.still rfl hg hr hh
  | linger h =>
    obtain ⟨hh, hr⟩ := Removal.handle_of_stalled h
    exact hs.still rfl hg hr hh
  | elapse ho => exact hs.still rfl hg rfl rfl

theorem IsStart.intact (h : IsStart l s) : Intact l s where
  isRegistered := h.isRegistered
  pool := h.pool
  seeks r hm := h.requests r hm ▸ rfl
  held r hm p hp := by simp [h.requests r hm, Request.held?] at hp
  given r hm p hp := by simp [h.requests r hm, Request.given?] at hp

/-! ### From the release on -/

theorem Releases.doomed (hs : Intact l s) (h : Releases store opener ask l s t) {i : Nat}
    {r : Request P α} {p : P} (hi : s.requests[i]? = some r) (hp : r.given? = some p) :
    Doomed l i p t := by
  have hpool := hs.given r (List.mem_of_getElem? hi) p hp
  obtain ⟨hm, hb, ha⟩ := h
  cases hm with
  | removal h =>
    have hrel := Removal.release_eq h hb ha
    rw [hrel] at h
    obtain ⟨ho, hr⟩ := Removal.step_releases h
    rw [hpool] at hr
    exact ⟨by rw [ho]; exact hs.pool p hpool, Or.inl hr, r, hi, Or.inl hp⟩
  | _ => exact absurd hb (by simp [ha])

theorem Doomed.moves (hk : opener.Keeps l) (hq : Quiet store ask l) {p : P}
    (hs : Doomed l i p s) (h : Moves store opener ask l s t) : Doomed l i p t := by
  have hg := h.grows hk hq
  have hclosed := hg.closed p hs.opened
  obtain ⟨r, hi, hr⟩ := hs.request
  refine ⟨hg.opened p hs.opened, ?_, ?_⟩
  · obtain hret | hc := hs.retired
    · cases h with
      | removal h =>
        rw [hret] at h
        exact Or.inr (hk.close_done (Removal.step_retires h))
      | _ => exact Or.inl hret
    · exact Or.inr (hclosed hc)
  · obtain hi' | ⟨r', hi', h | ⟨f, h, -⟩⟩ := h.request_cases hi
    · exact ⟨r, hi', hr⟩
    · exact ⟨r', hi', Request.given?_step hr h⟩
    · exact ⟨r', hi', Or.inr (Request.abandon_done h).1⟩

/-! ### In the end -/

/-- A removal that succeeded has taken the connection off the registry. -/
theorem Moves.unregistered (hs : s.removal = .ended (.ok ()) → s.entry.isRegistered = false)
    (h : Moves store opener ask l s t) (ht : t.removal = .ended (.ok ())) :
    t.entry.isRegistered = false := by
  cases h with
  | request hi h => exact (Request.isRegistered_of_step h).trans (hs ht)
  | stall hi h => exact (Request.handle_of_stalled h).2.trans (hs ht)
  | abandon f hi h =>
    obtain ⟨-, -, -, hr⟩ := Request.abandon_done h
    exact hr.trans (hs ht)
  | removal h =>
    obtain rfl := ht
    rcases Removal.unregistered_of_step h with ⟨hr, rfl⟩ | hu
    · exact hs hr
    · exact hu
  | linger h => exact (Removal.handle_of_stalled h).2.trans (hs ht)
  | elapse ho => exact hs ht

theorem Missed.moves {u : Scene σ P α} {id : String} (hs : Missed store opener ask l id i u s)
    (hu : Reaches store opener ask l u s) (hreg : s.entry.isRegistered = false)
    (hid : s.entry.desk.handle.id = id) (h : Moves store opener ask l s t) :
    Missed store opener ask l id i u t := by
  cases hs with
  | arrives hi =>
    obtain hi' | ⟨r', hi', h | ⟨f, h, hup⟩⟩ := h.request_cases hi
    · exact .arrives hi'
    · obtain rfl := Request.step_arrives hreg h
      exact .notFound (hid ▸ hi')
    · obtain ⟨rfl, -⟩ := Work.done_inj h
      exact .givenUp hu (hup rfl) .refl hi'
  | notFound hi => exact .notFound (h.request_ended hi)
  | givenUp hv hw ht hi => exact .givenUp hv hw (ht.tail h) (h.request_ended hi)

theorem Missed.not_isAtWork {u : Scene σ P α} {id : String} {r : Request P α} {o : σ}
    (h : Missed store opener ask l id i u t) (hi : t.requests[i]? = some r) :
    ¬ r.IsAtWork l o := by
  cases h with
  | arrives h =>
    obtain rfl := Option.some.inj (hi.symm.trans h)
    exact nofun
  | notFound h =>
    obtain rfl := Option.some.inj (hi.symm.trans h)
    exact nofun
  | givenUp _ _ _ h =>
    obtain rfl := Option.some.inj (hi.symm.trans h)
    exact nofun

/-! ### Every run -/

/-- A run before the release, or one that went through it. -/
theorem Reaches.intact_or_released (hk : opener.Keeps l) (hq : Quiet store ask l)
    (hs : IsStart l s) (h : Reaches store opener ask l s t) :
    t.removal.hasReleased = false ∧ Intact l t ∨
      ∃ a b, Reaches store opener ask l s a ∧ Intact l a ∧ Releases store opener ask l a b ∧
        Reaches store opener ask l b t := by
  induction h with
  | refl => exact Or.inl ⟨by rw [hs.removal]; rfl, hs.intact⟩
  | tail hr hm ih =>
    rename_i u v
    rcases ih with ⟨hu, hi⟩ | ⟨a, b, ha, hi, hab, hb⟩
    · cases hv : v.removal.hasReleased with
      | false => exact Or.inl ⟨rfl, hi.moves hk hq hm hu hv⟩
      | true => exact Or.inr ⟨u, v, hr, hi, ⟨hm, hu, hv⟩, .refl⟩
    · exact Or.inr ⟨a, b, ha, hi, hab, hb.tail hm⟩

theorem Reaches.unregistered (hs : IsStart l s) (h : Reaches store opener ask l s t)
    (ht : t.removal = .ended (.ok ())) : t.entry.isRegistered = false := by
  induction h with
  | refl => nomatch hs.removal.symm.trans ht
  | tail _ hm ih => exact hm.unregistered ih ht

theorem Doomed.reaches (hk : opener.Keeps l) (hq : Quiet store ask l) {p : P}
    (hs : Doomed l i p s) (h : Reaches store opener ask l s t) : Doomed l i p t := by
  induction h with
  | refl => exact hs
  | tail _ hm ih => exact ih.moves hk hq hm

/-- A removal that has ended stays so. -/
theorem Reaches.ended {x : Except Failure Unit} (hs : s.removal = .ended x)
    (h : Reaches store opener ask l s t) : t.removal = .ended x := by
  induction h with
  | refl => exact hs
  | tail _ hm ih =>
    cases hm with
    | removal h =>
      rw [ih] at h
      exact (Work.done_inj h).1
    | _ => exact ih

theorem Reaches.id_eq (h : Reaches store opener ask l s t) :
    t.entry.desk.handle.id = s.entry.desk.handle.id := by
  induction h with
  | refl => rfl
  | tail _ hm ih => exact hm.id_eq.trans ih

theorem Reaches.hasReleased (hs : s.removal.hasReleased = true)
    (h : Reaches store opener ask l s t) : t.removal.hasReleased = true := by
  induction h with
  | refl => exact hs
  | tail _ hm ih => exact hm.hasReleased ih

/-- Wherever a run goes through the release, it was before it until then. -/
theorem Releases.intact (hk : opener.Keeps l) (hq : Quiet store ask l) {a b : Scene σ P α}
    (hs : IsStart l s) (ha : Reaches store opener ask l s a)
    (hab : Releases store opener ask l a b) : Intact l a := by
  obtain ⟨-, hi⟩ | ⟨a', b', -, -, hab', hb'⟩ := ha.intact_or_released hk hq hs
  · exact hi
  · have hrel := Reaches.hasReleased hab'.after hb'
    nomatch hab.before.symm.trans hrel

/-- A request that has not looked up a connection which is off the registry does not find it. -/
theorem Reaches.missed {u : Scene σ P α} (hs : IsStart l s) (hu : Reaches store opener ask l s u)
    (hrem : u.removal = .ended (.ok ())) (hi : u.requests[i]? = some .arrives)
    (h : Reaches store opener ask l u t) :
    Missed store opener ask l s.entry.desk.handle.id i u t := by
  induction h with
  | refl => exact .arrives hi
  | tail hv hm ih =>
    have hsv := hu.trans hv
    exact ih.moves hv (Reaches.unregistered hs hsv (Reaches.ended hrem hv)) (Reaches.id_eq hsv) hm

/-! ### A run with pools in memory -/

/-- A store that loses its records. -/
def blankStore : Store Books Unit where
  start := return ()
  commit _ := return ()
  rollback _ := return ()
  list := return []
  insert _ _ _ := return ()
  update _ _ _ := return ()
  delete _ _ := return ()

/-- An open pool answers with its number. -/
def answer (_ p : Nat) : Work Books Failure Nat := fun s =>
  if s[p]?.map Prod.snd = some false then (.done p, s)
  else (.failed Fault.poolClosed.toFailure, s)

theorem quiet_blankStore : Quiet blankStore answer Books.ledger where
  deletes _ _ := ⟨rfl, rfl⟩
  asks i p s := by
    rw [answer]
    split <;> exact ⟨rfl, rfl⟩
  fails i p s h := ⟨_, if_neg h⟩

/-- Three requests for a connection that is open. -/
def waiting : Scene Books Nat Nat where
  entry := ⟨⟨[(.file "a" "a.db", false)], ⟨"c", .file "a" "a.db", some 0⟩, false⟩, true⟩
  requests := [.arrives, .arrives, .arrives]
  removal := .finds

/-- The connection is removed. One request had its pool before, one had found the connection. -/
def removed : Scene Books Nat Nat where
  entry := ⟨⟨[(.file "a" "a.db", true)], ⟨"c", .file "a" "a.db", none⟩, false⟩, false⟩
  requests := [.asks 0, .calls .asks, .arrives]
  removal := .ended (.ok ())

/-- Afterwards the second request is about to open the handle. -/
def reopening : Scene Books Nat Nat where
  entry := ⟨⟨[(.file "a" "a.db", true)], ⟨"c", .file "a" "a.db", none⟩, true⟩, false⟩
  requests := [.asks 0, .calls (.opens (.file "a" "a.db")), .arrives]
  removal := .ended (.ok ())

/-- It has opened the handle, and the pool has answered. -/
def reopened : Scene Books Nat Nat where
  entry := ⟨⟨[(.file "a" "a.db", true), (.file "a" "a.db", false)],
    ⟨"c", .file "a" "a.db", some 1⟩, false⟩, false⟩
  requests := [.asks 0, .ended (.ok 1), .arrives]
  removal := .ended (.ok ())

theorem isStart_waiting : IsStart Books.ledger waiting where
  isRegistered := rfl
  requests r hr := by simpa [waiting] using hr
  removal := rfl
  pool p hp := by
    obtain rfl := Option.some.inj hp
    exact nofun

theorem waiting_reaches : Reaches blankStore Books.opener answer Books.ledger waiting removed :=
  .head (.request (i := 0) rfl rfl) <| .head (.request (i := 1) rfl rfl) <|
    .head (.removal rfl) <| .head (.removal rfl) <| .head (.request (i := 0) rfl rfl) <|
    .head (.removal rfl) <| .head (.removal rfl) <| .head (.removal rfl) .refl

theorem removed_reaches : Reaches blankStore Books.opener answer Books.ledger removed reopening :=
  .head (.request (i := 1) rfl rfl) <| .head (.request (i := 1) rfl rfl) <|
    .head (.request (i := 1) rfl rfl) .refl

theorem reopening_reaches :
    Reaches blankStore Books.opener answer Books.ledger reopening reopened :=
  .head (.request (i := 1) rfl rfl) <| .head (.request (i := 1) rfl rfl) <|
    .head (.request (i := 1) rfl rfl) .refl

/-- Nothing keeps a request that had found the connection from opening its handle once it is
    removed, and from asking the new pool. -/
theorem reopened_after_removal : IsStart Books.ledger waiting ∧
    Reaches blankStore Books.opener answer Books.ledger waiting removed ∧
    removed.removal = .ended (.ok ()) ∧
    Reaches blankStore Books.opener answer Books.ledger removed reopening ∧
    reopening.requests[1]? = some (.calls (.opens removed.entry.desk.handle.info)) ∧
    Reaches blankStore Books.opener answer Books.ledger reopening reopened ∧
    reopened.entry.desk.handle.pool = some 1 ∧
    Books.ledger.opened removed.entry.desk.outside 1 = none ∧
    Books.ledger.opened reopened.entry.desk.outside 1 = some removed.entry.desk.handle.info ∧
    reopened.requests[1]? = some (.ended (.ok 1)) :=
  ⟨isStart_waiting, waiting_reaches, rfl, removed_reaches, rfl, reopening_reaches, rfl, rfl, rfl,
    rfl⟩

/-- Once a removal has succeeded, a request that looks the connection up from then on does not find
    it, and one whose pool was given before the removal let go of it fails: that pool is closed.
    Who opens the handle again or runs something had looked the connection up before the removal
    ended, and had no pool when it let go of the one at the handle. -/
theorem at_work_after_removal (hk : opener.Keeps l) (hq : Quiet store ask l) (hs : IsStart l s)
    {u : Scene σ P α} (hr : Reaches store opener ask l s u) (hu : u.removal = .ended (.ok ())) :
    (∃ a b : Scene σ P α, Reaches store opener ask l s a ∧ Releases store opener ask l a b ∧
      Reaches store opener ask l b u) ∧
    ∀ t : Scene σ P α, Reaches store opener ask l u t →
      t.entry.isRegistered = false ∧
      (∀ i : Nat, u.requests[i]? = some .arrives →
        Missed store opener ask l s.entry.desk.handle.id i u t) ∧
      ∀ a b : Scene σ P α, Reaches store opener ask l s a → Releases store opener ask l a b →
        Reaches store opener ask l b u →
        (∀ (i : Nat) (r : Request P α) p, a.requests[i]? = some r → r.given? = some p →
          l.closed t.entry.desk.outside p ∧
          ∃ f, ask i p t.entry.desk.outside = (.failed f, t.entry.desk.outside)) ∧
        ∀ (i : Nat) (r : Request P α), t.requests[i]? = some r →
          r.IsAtWork l t.entry.desk.outside → u.requests[i]? ≠ some .arrives ∧
            ∀ r' : Request P α, a.requests[i]? = some r' → r'.given? = none := by
  refine ⟨?_, fun t ht => ?_⟩
  · obtain ⟨h, -⟩ | ⟨a, b, ha, -, hab, hb⟩ := hr.intact_or_released hk hq hs
    · rw [hu] at h
      nomatch h
    · exact ⟨a, b, ha, hab, hb⟩
  have hmissed (i : Nat) (hi : u.requests[i]? = some .arrives) := Reaches.missed hs hr hu hi ht
  refine ⟨Reaches.unregistered hs (hr.trans ht) (ht.ended hu), hmissed, fun a b ha hab hb => ?_⟩
  have hdoomed (i : Nat) (r : Request P α) (p : P) (hr : a.requests[i]? = some r)
      (hp : r.given? = some p) : Doomed l i p t ∧ l.closed t.entry.desk.outside p := by
    have hd := ((hab.doomed (hab.intact hk hq hs ha) hr hp).reaches hk hq hb).reaches hk hq ht
    refine ⟨hd, hd.retired.resolve_left ?_⟩
    rw [ht.ended hu]
    exact nofun
  refine ⟨fun i r p hr hp => ?_, fun i r hi hw => ⟨fun hu => ?_, fun r' hr' => ?_⟩⟩
  · obtain ⟨-, hc⟩ := hdoomed i r p hr hp
    exact ⟨hc, hq.fails i p _ hc⟩
  · exact (hmissed i hu).not_isAtWork hi hw
  · rw [Option.eq_none_iff_forall_ne_some]
    intro p hp
    obtain ⟨hd, hc⟩ := hdoomed i r' p hr' hp
    obtain ⟨r₁, hr₁, hg⟩ := hd.request
    obtain rfl := Option.some.inj (hi.symm.trans hr₁)
    exact Request.not_isAtWork_of_given? hg hc hw

/-- A request overlaps with a removal: it opens the handle again, and it had no pool before. -/
theorem at_work_after_removal_waiting : ∃ a b,
    Reaches blankStore Books.opener answer Books.ledger waiting a ∧
    Releases blankStore Books.opener answer Books.ledger a b ∧
    Reaches blankStore Books.opener answer Books.ledger b removed ∧
    reopening.entry.isRegistered = false ∧
    Missed blankStore Books.opener answer Books.ledger "c" 2 removed reopening ∧
    removed.requests[1]? ≠ some .arrives ∧
    ∀ r, a.requests[1]? = some r → r.given? = none := by
  obtain ⟨⟨a, b, ha, hab, hb⟩, h⟩ :=
    at_work_after_removal Books.opener_keeps quiet_blankStore isStart_waiting waiting_reaches rfl
  obtain ⟨hreg, hlate, hrel⟩ := h reopening removed_reaches
  obtain ⟨hu, hr⟩ := (hrel a b ha hab hb).2 1 _ rfl trivial
  exact ⟨a, b, ha, hab, hb, hreg, hlate 2 rfl, hu, hr⟩

end Scene

end SqlGateway.Removal
