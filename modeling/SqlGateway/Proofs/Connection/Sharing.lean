import SqlGateway.Proofs.Connection.Effect
import Mathlib.Logic.Function.Basic

/-! Callers that share one handle. However their steps are interleaved, whether pools can be opened
    or not, and wherever callers are given up:

        the pool at the handle was opened for the details there and is open
        a pool in hand is nowhere else, and one that may come to the handle is open
        a pool that was given was at the handle, by the caller's last look

    and if nobody is given up, every pool is at the handle, in hand or closed. -/

namespace SqlGateway

variable {σ P : Type}

/-- Callers at a desk, and what each of them saw there at its last look. -/
structure Scene (σ P : Type) where
  desk : Desk σ P
  calls : List (Call P)
  seen : Nat → Option (Desk σ P) := fun _ => none

/-- What may happen next. -/
inductive Event where
  | step (caller : Nat)
  | abandon (caller : Nat)
  | elapse

def Event.isAbandon : Event → Bool
  | .abandon _ => true
  | _ => false

namespace Scene

/-- The desk after a step of a caller, which saw it if the step was a look. -/
def after (s : Scene σ P) (i : Nat) (c c' : Call P) (d : Desk σ P) : Scene σ P :=
  ⟨d, s.calls.set i c', if c.isLook then Function.update s.seen i (some d) else s.seen⟩

/-- One event: a caller takes a step, is held up in it or is given up, or time goes by outside. -/
inductive Moves (opener : Opener σ P) (l : Ledger σ P) : Scene σ P → Event → Scene σ P → Prop
  | step {s i c c' d} : s.calls[i]? = some c → c.step opener s.desk = (.done c', d) →
    Moves opener l s (.step i) (s.after i c c' d)
  | stall {s i c d} : s.calls[i]? = some c → c.step opener s.desk = (.stalled, d) →
    Moves opener l s (.step i) { s with desk := d }
  | abandon {s i c c' d} (f : Failure) : s.calls[i]? = some c →
    c.abandon f s.desk = (.done c', d) →
    Moves opener l s (.abandon i) { s with desk := d, calls := s.calls.set i c' }
  | elapse {s o} : l.Still s.desk.outside o →
    Moves opener l s .elapse { s with desk := { s.desk with outside := o } }

/-- Events one after the other. -/
inductive Run (opener : Opener σ P) (l : Ledger σ P) (start : Scene σ P) :
    List Event → Scene σ P → Prop
  | nil : Run opener l start [] start
  | snoc {events e s t} : Run opener l start events s → Moves opener l s e t →
    Run opener l start (events ++ [e]) t

/-- Nobody has begun; a pool that is there was opened for the details that are there. -/
structure IsStart (l : Ledger σ P) (s : Scene σ P) : Prop where
  isTaken : s.desk.isTaken = false
  calls : ∀ c ∈ s.calls, c = .asks ∨ (∃ info, c = .replaces info) ∨ c = .releases
  pool : ∀ p, s.desk.handle.pool = some p →
    l.opened s.desk.outside p = some s.desk.handle.info ∧ ¬ l.closed s.desk.outside p

/-- The pool in hand of a caller. -/
def held? (s : Scene σ P) (i : Nat) : Option P := s.calls[i]?.bind Call.held?

/-- The pool that the caller may still put at the handle. -/
def offer? (s : Scene σ P) (i : Nat) : Option (ConnectionInfo × P) := s.calls[i]?.bind Call.offer?

end Scene

/-- A pool that is open and was opened for some details. -/
def Ledger.IsOpenFor (l : Ledger σ P) (o : σ) (info : ConnectionInfo) (p : P) : Prop :=
  l.opened o p = some info ∧ ¬ l.closed o p

/-- Pools stay as they are, but for one that may be closed and others that may be opened. -/
structure Ledger.Spares (l : Ledger σ P) (gone : Option P) (o o' : σ) : Prop where
  opened : ∀ q, l.opened o q ≠ none → l.opened o' q = l.opened o q
  closed : ∀ q, l.opened o q ≠ none → gone ≠ some q → (l.closed o' q ↔ l.closed o q)

namespace Ledger

variable {opener : Opener σ P} {l : Ledger σ P} {o o' : σ}

theorem Still.spares (h : l.Still o o') (gone : Option P) : l.Spares gone o o' :=
  ⟨fun _ _ => by rw [h.1], fun _ _ _ => by rw [h.2]⟩

theorem Spares.isOpenFor {gone : Option P} (h : l.Spares gone o o') {info : ConnectionInfo} {q : P}
    (hq : l.IsOpenFor o info q) (hn : gone ≠ some q) : l.IsOpenFor o' info q := by
  have ho : l.opened o q ≠ none := by simp [hq.1]
  exact ⟨(h.opened q ho).trans hq.1, fun hc => hq.2 ((h.closed q ho hn).mp hc)⟩

/-- A fresh pool is none of those that were opened before. -/
theorem spares_of_connect (hk : opener.Keeps l) {info : ConnectionInfo} {p : P}
    (h : opener.connect info o = (.done p, o')) : l.Spares none o o' := by
  have hn : ∀ q, l.opened o q ≠ none → q ≠ p := by
    rintro q hq rfl
    exact hq (hk.connect_fresh h)
  exact ⟨fun q hq => (hk.connect_others h (hn q hq)).1,
    fun q hq _ => (hk.connect_others h (hn q hq)).2⟩

theorem spares_of_close (hk : opener.Keeps l) {p : P} {r : Outcome Empty Unit}
    (h : opener.close p o = (r, o')) : l.Spares (some p) o o' := by
  refine ⟨fun q _ => by rw [hk.close_opened h], fun q _ hq => hk.close_others h ?_⟩
  rintro rfl
  exact hq rfl

end Ledger

namespace Scene

/-- The pools of a scene. -/
structure Sound (l : Ledger σ P) (s : Scene σ P) : Prop where
  pool : ∀ p, s.desk.handle.pool = some p → l.IsOpenFor s.desk.outside s.desk.handle.info p
  offer : ∀ i info p, s.offer? i = some (info, p) → l.IsOpenFor s.desk.outside info p
  opened : ∀ i p, s.held? i = some p → l.opened s.desk.outside p ≠ none
  apart : ∀ i j p, s.held? i = some p → s.held? j = some p → i = j
  away : ∀ i p, s.held? i = some p → s.desk.handle.pool ≠ some p

/-- Whoever was given a pool saw it at the handle. -/
def Recorded (l : Ledger σ P) (s : Scene σ P) : Prop :=
  ∀ i c p, s.calls[i]? = some c → c.given? = some p → ∃ d, s.seen i = some d ∧
    d.handle.pool = some p ∧ l.IsOpenFor d.outside d.handle.info p

/-- A pool that is closed, at the handle or in hand. -/
def Accounts (l : Ledger σ P) (s : Scene σ P) (p : P) : Prop :=
  l.closed s.desk.outside p ∨ s.desk.handle.pool = some p ∨ ∃ i, s.held? i = some p

variable {opener : Opener σ P} {l : Ledger σ P} {s t start : Scene σ P}

theorem held?_of_offer? {i : Nat} {info : ConnectionInfo} {p : P}
    (h : s.offer? i = some (info, p)) : s.held? i = some p := by
  rw [offer?, Option.bind_eq_some_iff] at h
  obtain ⟨c, hc, ho⟩ := h
  rw [held?, hc]
  exact Call.held?_of_offer? ho

/-- What has changed at one caller, at the desk and outside, against a sound scene. -/
structure Change (l : Ledger σ P) (s t : Scene σ P) (i : Nat) (gone : Option P) : Prop where
  held : ∀ j, j ≠ i → t.held? j = s.held? j
  offer : ∀ j, j ≠ i → t.offer? j = s.offer? j
  spares : l.Spares gone s.desk.outside t.desk.outside
  gone_held : ∀ p, gone = some p → s.held? i = some p

/-- A change leaves a scene sound if what it puts at the handle or in a hand is. -/
theorem Sound.change (hs : Sound l s) {i : Nat} {gone : Option P} (hc : Change l s t i gone)
    (hpool : ∀ p, t.desk.handle.pool = some p →
      l.IsOpenFor t.desk.outside t.desk.handle.info p ∧ ∀ j, j ≠ i → s.held? j ≠ some p)
    (hoffer : ∀ info p, t.offer? i = some (info, p) → l.IsOpenFor t.desk.outside info p)
    (hheld : ∀ p, t.held? i = some p → l.opened t.desk.outside p ≠ none ∧
      t.desk.handle.pool ≠ some p ∧ ∀ j, j ≠ i → s.held? j ≠ some p) : Sound l t := by
  have hn : ∀ j, j ≠ i → ∀ p, s.held? j = some p → gone ≠ some p := by
    rintro j hj p hp rfl
    exact hj (hs.apart j i p hp (hc.gone_held p rfl))
  refine ⟨fun p hp => (hpool p hp).1, ?_, ?_, ?_, ?_⟩
  · intro j info p hp
    by_cases hj : j = i
    · exact hoffer info p (hj ▸ hp)
    · rw [hc.offer j hj] at hp
      exact hc.spares.isOpenFor (hs.offer j info p hp) (hn j hj p (held?_of_offer? hp))
  · intro j p hp
    by_cases hj : j = i
    · exact (hheld p (hj ▸ hp)).1
    · rw [hc.held j hj] at hp
      rw [hc.spares.opened p (hs.opened j p hp)]
      exact hs.opened j p hp
  · intro j k p hj hk
    by_cases hji : j = i <;> by_cases hki : k = i
    · rw [hji, hki]
    · exact absurd (hc.held k hki ▸ hk) ((hheld p (hji ▸ hj)).2.2 k hki)
    · exact absurd (hc.held j hji ▸ hj) ((hheld p (hki ▸ hk)).2.2 j hji)
    · exact hs.apart j k p (hc.held j hji ▸ hj) (hc.held k hki ▸ hk)
  · intro j p hp
    by_cases hj : j = i
    · exact (hheld p (hj ▸ hp)).2.1
    · intro ht
      exact (hpool p ht).2 j hj (hc.held j hj ▸ hp)

/-- A change that leaves the handle, and after which the caller has in hand no more than before. -/
theorem Sound.lets_go (hs : Sound l s) {i : Nat} {gone : Option P} (hc : Change l s t i gone)
    (hh : t.desk.handle = s.desk.handle)
    (hoffer : ∀ info p, t.offer? i = some (info, p) →
      s.offer? i = some (info, p) ∧ gone ≠ some p)
    (hheld : ∀ p, t.held? i = some p → s.held? i = some p) : Sound l t := by
  refine hs.change hc ?_ ?_ ?_
  · intro p hp
    rw [hh] at hp ⊢
    refine ⟨hc.spares.isOpenFor (hs.pool p hp) ?_, fun j _ hj => hs.away j p hj hp⟩
    intro hg
    exact hs.away i p (hc.gone_held p hg) hp
  · intro info p hp
    obtain ⟨ho, hg⟩ := hoffer info p hp
    exact hc.spares.isOpenFor (hs.offer i info p ho) hg
  · intro p hp
    have hi := hheld p hp
    rw [hh, hc.spares.opened p (hs.opened i p hi)]
    exact ⟨hs.opened i p hi, hs.away i p hi, fun j hj hq => hj (hs.apart j i p hq hi)⟩

/-- A scene in which one call has gone from one point to another. -/
structure Replaces (s t : Scene σ P) (i : Nat) (c c' : Call P) : Prop where
  from_eq : s.calls[i]? = some c
  calls_eq : t.calls = s.calls.set i c'

namespace Replaces

variable {i : Nat} {c c' : Call P}

theorem calls_self (h : Replaces s t i c c') : t.calls[i]? = some c' := by
  obtain ⟨hi, -⟩ := List.getElem?_eq_some_iff.mp h.from_eq
  rw [h.calls_eq, List.getElem?_set_self hi]

theorem calls_ne (h : Replaces s t i c c') {j : Nat} (hj : j ≠ i) : t.calls[j]? = s.calls[j]? := by
  rw [h.calls_eq, List.getElem?_set_ne hj.symm]

theorem held_from (h : Replaces s t i c c') : s.held? i = c.held? := by
  rw [held?, h.from_eq]
  rfl

theorem offer_from (h : Replaces s t i c c') : s.offer? i = c.offer? := by
  rw [offer?, h.from_eq]
  rfl

theorem held_to (h : Replaces s t i c c') : t.held? i = c'.held? := by
  rw [held?, h.calls_self]
  rfl

theorem offer_to (h : Replaces s t i c c') : t.offer? i = c'.offer? := by
  rw [offer?, h.calls_self]
  rfl

theorem change (h : Replaces s t i c c') {gone : Option P}
    (hg : ∀ p, gone = some p → c.held? = some p)
    (hs : l.Spares gone s.desk.outside t.desk.outside) : Change l s t i gone where
  held j hj := by rw [held?, held?, h.calls_ne hj]
  offer j hj := by rw [offer?, offer?, h.calls_ne hj]
  spares := hs
  gone_held p hp := h.held_from.trans (hg p hp)

end Replaces

/-- Every effect leaves a sound scene sound. -/
theorem Sound.effect (hk : opener.Keeps l) (hs : Sound l s) {i : Nat} {c c' : Call P}
    (hr : Replaces s t i c c') (he : Call.Effect opener s.desk t.desk c c') : Sound l t := by
  have hpool : ∀ p, s.desk.handle.pool = some p → ∀ j, s.held? j ≠ some p :=
    fun p hp j hj => hs.away j p hj hp
  have hheld : ∀ p, c.held? = some p → ∀ j, j ≠ i → s.held? j ≠ some p :=
    fun p hp j hj hq => hj (hs.apart j i p hq (hr.held_from.trans hp))
  cases he with
  | rests ho hh hd hf =>
    have hsp : l.Spares none s.desk.outside t.desk.outside := ho ▸ Ledger.Still.spares ⟨rfl, rfl⟩ _
    refine hs.lets_go (hr.change (by simp) hsp) hh (fun info p hp => ?_) fun p hp => ?_
    · rw [hr.offer_to] at hp
      exact ⟨hr.offer_from.trans (hf _ hp), by simp⟩
    · rw [hr.held_to, hd] at hp
      exact hr.held_from.trans hp
  | opens hc hh hn hg hf =>
    have hsp := Ledger.spares_of_connect hk hc
    have hfresh := hk.connect_fresh hc
    refine hs.change (hr.change (by simp) hsp) (fun q hq => ?_) (fun info q hq => ?_) fun q hq => ?_
    · rw [hh] at hq ⊢
      exact ⟨hsp.isOpenFor (hs.pool q hq) (by simp), fun j _ => hpool q hq j⟩
    · rw [hr.offer_to] at hq
      obtain ⟨rfl, rfl⟩ := Prod.mk.inj (hf _ hq)
      exact hk.connect_done hc
    · rw [hr.held_to, hg] at hq
      obtain rfl := Option.some.inj hq
      -- what is fresh is neither at the handle nor in another hand
      refine ⟨by simp [(hk.connect_done hc).1], fun hq => ?_, fun j _ hq => hs.opened j _ hq hfresh⟩
      rw [hh] at hq
      simp [(hs.pool _ hq).1] at hfresh
  | fails hc hh hn hg =>
    have hsp := (hk.connect_failed hc).spares none
    refine hs.lets_go (hr.change (by simp) hsp) hh (fun info q hq => ?_) fun q hq => ?_
    · simp [hr.offer_to, Call.offer?_of_not_held? hg] at hq
    · simp [hr.held_to, hg] at hq
  | keeps ho hf hn hinfo hh hg =>
    have hsp : l.Spares none s.desk.outside t.desk.outside := ho ▸ Ledger.Still.spares ⟨rfl, rfl⟩ _
    refine hs.change (hr.change (by simp) hsp) (fun q hq => ?_) (fun info q hq => ?_) fun q hq => ?_
    · rw [hh] at hq ⊢
      obtain rfl := Option.some.inj hq
      have hoff := hs.offer i _ _ (hr.offer_from.trans hf)
      exact ⟨hsp.isOpenFor (hinfo ▸ hoff) (by simp), hheld _ (Call.held?_of_offer? hf)⟩
    · simp [hr.offer_to, Call.offer?_of_not_held? hg] at hq
    · simp [hr.held_to, hg] at hq
  | closes hc hh hd hg =>
    have hsp := Ledger.spares_of_close hk hc
    refine hs.lets_go (hr.change (fun q hq => hd.trans hq) hsp) hh (fun info q hq => ?_)
      fun q hq => ?_
    · simp [hr.offer_to, Call.offer?_of_not_held? hg] at hq
    · simp [hr.held_to, hg] at hq
  | swaps ho hf hh hd hg =>
    have hsp : l.Spares none s.desk.outside t.desk.outside := ho ▸ Ledger.Still.spares ⟨rfl, rfl⟩ _
    have hcd := Call.held?_of_offer? hf
    refine hs.change (hr.change (by simp) hsp) (fun q hq => ?_) (fun info q hq => ?_) fun q hq => ?_
    · rw [hh] at hq ⊢
      obtain rfl := Option.some.inj hq
      have hoff := hs.offer i _ _ (hr.offer_from.trans hf)
      exact ⟨hsp.isOpenFor hoff (by simp), hheld _ hcd⟩
    · simp [hr.offer_to, hg] at hq
    · rw [hr.held_to, hd] at hq
      have hop : l.opened s.desk.outside q ≠ none := by simp [(hs.pool q hq).1]
      refine ⟨by rwa [hsp.opened q hop], fun hp => ?_, fun j _ => hpool q hq j⟩
      rw [hh] at hp
      obtain rfl := Option.some.inj hp
      exact hs.away i _ (hr.held_from.trans hcd) hq
  | releases ho hn hh hd hg =>
    have hsp : l.Spares none s.desk.outside t.desk.outside := ho ▸ Ledger.Still.spares ⟨rfl, rfl⟩ _
    refine hs.change (hr.change (by simp) hsp) (fun q hq => ?_) (fun info q hq => ?_) fun q hq => ?_
    · rw [hh] at hq
      simp [Handle.release] at hq
    · simp [hr.offer_to, hg] at hq
    · rw [hr.held_to, hd] at hq
      have hop : l.opened s.desk.outside q ≠ none := by simp [(hs.pool q hq).1]
      refine ⟨by rwa [hsp.opened q hop], ?_, fun j _ => hpool q hq j⟩
      rw [hh]
      simp [Handle.release]

theorem Sound.still (hs : Sound l s) (hc : t.calls = s.calls) (hh : t.desk.handle = s.desk.handle)
    (ho : l.Still s.desk.outside t.desk.outside) : Sound l t := by
  have hheld : t.held? = s.held? := by funext i; rw [held?, held?, hc]
  have hoffer : t.offer? = s.offer? := by funext i; rw [offer?, offer?, hc]
  have hopen : l.IsOpenFor t.desk.outside = l.IsOpenFor s.desk.outside := by
    funext info p
    rw [Ledger.IsOpenFor, Ledger.IsOpenFor, ho.1, ho.2]
  refine ⟨?_, ?_, ?_, ?_, ?_⟩
  · rw [hh, hopen]
    exact hs.pool
  · rw [hoffer, hopen]
    exact hs.offer
  · rw [hheld, ho.1]
    exact hs.opened
  · rw [hheld]
    exact hs.apart
  · rw [hheld, hh]
    exact hs.away

theorem Replaces.refl {i : Nat} {c : Call P} (hi : s.calls[i]? = some c) (hc : t.calls = s.calls) :
    Replaces s t i c c := by
  obtain ⟨h, rfl⟩ := List.getElem?_eq_some_iff.mp hi
  exact ⟨hi, by rw [hc, List.set_getElem_self]⟩

theorem Sound.stall (hk : opener.Keeps l) (hs : Sound l s) {i : Nat} {c : Call P} {d : Desk σ P}
    (hi : s.calls[i]? = some c) (h : c.step opener s.desk = (.stalled, d)) :
    Sound l { s with desk := d } := by
  obtain ⟨hh, ⟨info, hc⟩ | ⟨p, hp, hf, hc⟩⟩ := Call.stalled_of_step h
  · exact hs.still rfl hh (hk.connect_stalled hc)
  · have hr : Replaces s { s with desk := d } i c c := .refl hi rfl
    have hsp := Ledger.spares_of_close hk hc
    refine hs.lets_go (hr.change (fun q hq => hp.trans hq) hsp) hh (fun info q hq => ?_)
      fun q hq => hq
    simp [hr.offer_to, hf] at hq

theorem Sound.abandon (hs : Sound l s) {i : Nat} {c c' : Call P} {d : Desk σ P} {f : Failure}
    (hi : s.calls[i]? = some c) (h : c.abandon f s.desk = (.done c', d)) :
    Sound l { s with desk := d, calls := s.calls.set i c' } := by
  obtain ⟨ho, hh, hn, -⟩ := Call.abandon_done h
  have hr : Replaces s { s with desk := d, calls := s.calls.set i c' } i c c' := ⟨hi, rfl⟩
  have hsp : l.Spares none s.desk.outside d.outside := ho ▸ Ledger.Still.spares ⟨rfl, rfl⟩ _
  refine hs.lets_go (hr.change (by simp) hsp) hh (fun info q hq => ?_) fun q hq => ?_
  · simp [hr.offer_to, Call.offer?_of_not_held? hn] at hq
  · simp [hr.held_to, hn] at hq

theorem Sound.moves (hk : opener.Keeps l) {e : Event} (hs : Sound l s) (h : Moves opener l s e t) :
    Sound l t := by
  cases h with
  | step hi h => exact hs.effect hk ⟨hi, rfl⟩ (Call.effect_of_step h)
  | stall hi h => exact hs.stall hk hi h
  | abandon f hi h => exact hs.abandon hi h
  | elapse ho => exact hs.still rfl rfl ho

/-! ### What callers were given -/

theorem Recorded.moves {e : Event} (hr : Recorded l s) (ht : Sound l t)
    (h : Moves opener l s e t) : Recorded l t := by
  cases h with
  | step hi h =>
    rename_i i c c' d
    have hrep : Replaces s (s.after i c c' d) i c c' := ⟨hi, rfl⟩
    intro j c₁ p hj hg
    by_cases hji : j = i
    · subst hji
      obtain rfl := Option.some.inj (hrep.calls_self.symm.trans hj)
      rcases Call.given?_of_step h hg with ⟨hl, hp⟩ | ⟨hl, hg⟩
      · exact ⟨d, by simp [after, hl], hp, ht.pool p hp⟩
      · obtain ⟨d₁, hd, hp⟩ := hr j c p hi hg
        exact ⟨d₁, by simp [after, hl, hd], hp⟩
    · rw [hrep.calls_ne hji] at hj
      obtain ⟨d₁, hd, hp⟩ := hr j c₁ p hj hg
      refine ⟨d₁, ?_, hp⟩
      rw [after]
      split
      · exact (Function.update_of_ne hji ..).trans hd
      · exact hd
  | stall hi h => exact hr
  | abandon f hi h =>
    rename_i i c c' d
    have hrep : Replaces s { s with desk := d, calls := s.calls.set i c' } i c c' := ⟨hi, rfl⟩
    intro j c₁ p hj hg
    by_cases hji : j = i
    · subst hji
      obtain rfl := Option.some.inj (hrep.calls_self.symm.trans hj)
      exact hr j c p hi ((Call.abandon_done h).2.2.2 p hg)
    · rw [hrep.calls_ne hji] at hj
      exact hr j c₁ p hj hg
  | elapse ho => exact hr

/-! ### Where the pools are -/

/-- A pool stays accounted for if it does where it was: closed, at the handle or in the hand of the
    caller. -/
theorem Accounts.carry {i : Nat} {c c' : Call P} {p : P} (h : Accounts l s p)
    (hr : Replaces s t i c c') (hclosed : l.closed s.desk.outside p → l.closed t.desk.outside p)
    (hpool : s.desk.handle.pool = some p → Accounts l t p)
    (hhand : c.held? = some p → Accounts l t p) : Accounts l t p := by
  rcases h with hc | hp | ⟨j, hj⟩
  · exact Or.inl (hclosed hc)
  · exact hpool hp
  · by_cases hji : j = i
    · subst hji
      exact hhand (hr.held_from.symm.trans hj)
    · refine Or.inr (Or.inr ⟨j, ?_⟩)
      rw [held?, hr.calls_ne hji]
      exact hj

/-- Every effect leaves a pool closed, at the handle or in hand. -/
theorem Accounts.effect (hk : opener.Keeps l) {i : Nat} {c c' : Call P} {p : P}
    (h : l.opened s.desk.outside p ≠ none → Accounts l s p) (hr : Replaces s t i c c')
    (he : Call.Effect opener s.desk t.desk c c') (hop : l.opened t.desk.outside p ≠ none) :
    Accounts l t p := by
  have hhand (hd : c'.held? = some p) : Accounts l t p :=
    Or.inr (Or.inr ⟨i, hr.held_to.trans hd⟩)
  have hstay (hh : t.desk.handle = s.desk.handle) (hp : s.desk.handle.pool = some p) :
      Accounts l t p := Or.inr (Or.inl (hh ▸ hp))
  cases he with
  | rests ho hh hd hf =>
    rw [ho] at hop
    exact (h hop).carry hr (fun hc => ho ▸ hc) (hstay hh) fun hc => hhand (hd.trans hc)
  | opens hc hh hn hg hf =>
    rename_i info q
    by_cases hq : p = q
    · exact hhand (hq ▸ hg)
    · obtain ⟨ho, hcl⟩ := hk.connect_others hc hq
      refine (h (ho ▸ hop)).carry hr hcl.mpr (hstay hh) fun hp => ?_
      simp [hn] at hp
  | fails hc hh hn hg =>
    obtain ⟨ho, hcl⟩ := hk.connect_failed hc
    rw [ho] at hop
    refine (h hop).carry hr (fun hp => hcl ▸ hp) (hstay hh) fun hp => ?_
    simp [hn] at hp
  | keeps ho hf hn hinfo hh hg =>
    rw [ho] at hop
    refine (h hop).carry hr (fun hc => ho ▸ hc) (fun hp => ?_) fun hp => ?_
    · simp [hn] at hp
    · rw [Call.held?_of_offer? hf] at hp
      exact Or.inr (Or.inl (by rw [hh]; exact hp))
  | closes hc hh hd hg =>
    rename_i q
    by_cases hq : p = q
    · exact Or.inl (hq ▸ hk.close_done hc)
    · rw [hk.close_opened hc] at hop
      refine (h hop).carry hr (hk.close_others hc hq).mpr (hstay hh) fun hp => ?_
      exact absurd (Option.some.inj (hd.symm.trans hp)).symm hq
  | swaps ho hf hh hd hg =>
    rw [ho] at hop
    refine (h hop).carry hr (fun hc => ho ▸ hc) (fun hp => hhand (hd.trans hp)) fun hp => ?_
    rw [Call.held?_of_offer? hf] at hp
    exact Or.inr (Or.inl (by rw [hh]; exact hp))
  | releases ho hn hh hd hg =>
    rw [ho] at hop
    refine (h hop).carry hr (fun hc => ho ▸ hc) (fun hp => hhand (hd.trans hp)) fun hp => ?_
    simp [hn] at hp

theorem Accounts.moves (hk : opener.Keeps l) {e : Event} {p : P} (he : e.isAbandon = false)
    (h : l.opened s.desk.outside p ≠ none → Accounts l s p) (hm : Moves opener l s e t)
    (hop : l.opened t.desk.outside p ≠ none) : Accounts l t p := by
  cases hm with
  | step hi hst => exact Accounts.effect hk h ⟨hi, rfl⟩ (Call.effect_of_step hst) hop
  | stall hi hst =>
    rename_i i c d
    have hd : l.opened d.outside = l.opened s.desk.outside ∧
        (l.closed s.desk.outside p → l.closed d.outside p) ∧ d.handle = s.desk.handle := by
      obtain ⟨hh, ⟨info, hc⟩ | ⟨q, -, -, hc⟩⟩ := Call.stalled_of_step hst
      · obtain ⟨ho, hcl⟩ := hk.connect_stalled hc
        exact ⟨ho, fun h => hcl ▸ h, hh⟩
      · refine ⟨hk.close_opened hc, fun h => ?_, hh⟩
        by_cases hq : p = q
        · exact hq ▸ hk.close_again hc (hq ▸ h)
        · exact (hk.close_others hc hq).mpr h
    obtain ⟨ho, hcl, hh⟩ := hd
    have hop' : l.opened s.desk.outside p ≠ none := ho ▸ hop
    refine (h hop').imp hcl (Or.imp (fun hp => ?_) id)
    show d.handle.pool = some p
    rw [hh]
    exact hp
  | abandon f hi h => simp [Event.isAbandon] at he
  | elapse ho =>
    have hop' : l.opened s.desk.outside p ≠ none := ho.1 ▸ hop
    exact (h hop').imp (fun hc => ho.2 ▸ hc) id

/-! ### Every run -/

theorem IsStart.held? (h : start.IsStart l) (i : Nat) : start.held? i = none := by
  rw [Scene.held?, Option.bind_eq_none_iff]
  intro c hc
  rcases h.calls c (List.mem_of_getElem? hc) with rfl | ⟨info, rfl⟩ | rfl <;> rfl

theorem IsStart.sound (h : start.IsStart l) : Sound l start := by
  refine ⟨h.pool, ?_, ?_, ?_, ?_⟩
  · intro i info p hp
    have hh := held?_of_offer? hp
    simp [h.held? i] at hh
  · intro i p hp
    simp [h.held? i] at hp
  · intro i j p hp
    simp [h.held? i] at hp
  · intro i p hp
    simp [h.held? i] at hp

theorem IsStart.recorded (h : start.IsStart l) : Recorded l start := by
  intro i c p hc hg
  rcases h.calls c (List.mem_of_getElem? hc) with rfl | ⟨info, rfl⟩ | rfl <;>
    simp [Call.given?] at hg

theorem Run.sound (hk : opener.Keeps l) (h : start.IsStart l) {events : List Event}
    (hr : Run opener l start events s) : Sound l s ∧ Recorded l s := by
  induction hr with
  | nil => exact ⟨h.sound, h.recorded⟩
  | snoc _ hm ih =>
    have hs := ih.1.moves hk hm
    exact ⟨hs, ih.2.moves hs hm⟩

theorem Run.accounts (hk : opener.Keeps l) {events : List Event} {p : P}
    (hp : l.opened start.desk.outside p = none ∨ start.desk.handle.pool = some p)
    (hr : Run opener l start events s) (he : ∀ e ∈ events, e.isAbandon = false)
    (hop : l.opened s.desk.outside p ≠ none) : Accounts l s p := by
  induction hr with
  | nil =>
    rcases hp with hp | hp
    · exact absurd hp hop
    · exact Or.inr (Or.inl hp)
  | snoc _ hm ih =>
    have he' := List.forall_mem_append.mp he
    exact Accounts.moves hk (he'.2 _ (List.mem_singleton_self _)) (ih he'.1) hm hop

/-- Whatever happens, the pool at the handle was opened for the details there and is open, and so
    was every pool that a caller was given, at its last look. If nobody is given up, every pool that
    was opened is at the handle or closed once all have ended. -/
theorem pool_belongs_to_details (hk : opener.Keeps l) (h : start.IsStart l) {events : List Event}
    (hr : Run opener l start events s) :
    (∀ p, s.desk.handle.pool = some p → l.IsOpenFor s.desk.outside s.desk.handle.info p) ∧
    (∀ i p, s.calls[i]? = some (.ended (.ok (some p))) → ∃ d, s.seen i = some d ∧
      d.handle.pool = some p ∧ l.IsOpenFor d.outside d.handle.info p) ∧
    ((∀ e ∈ events, e.isAbandon = false) → (∀ c ∈ s.calls, ∃ r, c = .ended r) →
      ∀ p, l.opened start.desk.outside p = none ∨ start.desk.handle.pool = some p →
        l.opened s.desk.outside p ≠ none →
        s.desk.handle.pool = some p ∨ l.closed s.desk.outside p) := by
  obtain ⟨hs, hrec⟩ := hr.sound hk h
  refine ⟨hs.pool, fun i p hi => hrec i _ p hi rfl, fun he hend p hp hop => ?_⟩
  rcases hr.accounts hk hp he hop with hc | hp | ⟨i, hi⟩
  · exact Or.inr hc
  · exact Or.inl hp
  · obtain ⟨c, hc, hh⟩ := Option.bind_eq_some_iff.mp hi
    obtain ⟨r, rfl⟩ := hend c (List.mem_of_getElem? hc)
    simp [Call.held?] at hh

/-- A schedule that is run to its end is a run of the scene. -/
theorem run_of_interleave {schedule : List Nat} {events : List Event} {calls calls' : List (Call P)}
    {d d' : Desk σ P} {seen : Nat → Option (Desk σ P)}
    (hr : Run opener l start events ⟨d, calls, seen⟩)
    (h : Call.interleave opener schedule calls d = (.done calls', d'))
    (he : ∀ e ∈ events, e.isAbandon = false) :
    ∃ events' seen', Run opener l start events' ⟨d', calls', seen'⟩ ∧
      ∀ e ∈ events', e.isAbandon = false := by
  induction schedule generalizing events calls d seen with
  | nil =>
    obtain ⟨rfl, rfl⟩ := Work.done_inj h
    exact ⟨events, seen, hr, he⟩
  | cons i schedule ih =>
    rw [Call.interleave, List.foldlM_cons] at h
    obtain ⟨calls₁, d₁, hs, hrest⟩ := Work.bind_eq_done_iff.mp h
    rw [Call.stepAt] at hs
    cases hi : calls[i]? with
    | none =>
      rw [hi] at hs
      obtain ⟨rfl, rfl⟩ := Work.done_inj hs
      exact ih hr hrest he
    | some c =>
      simp only [hi] at hs
      obtain ⟨c', d₂, hc, hs⟩ := Work.bind_eq_done_iff.mp hs
      obtain ⟨rfl, rfl⟩ := Work.done_inj hs
      refine ih (hr.snoc (.step hi hc)) hrest ?_
      intro e hm
      rcases List.mem_append.mp hm with hm | hm
      · exact he e hm
      · rw [List.mem_singleton.mp hm]
        rfl

/-- A caller is overtaken by new details: it is given the pool opened for these, and closes its own. -/
theorem pool_belongs_to_details_overtaken : ∃ calls d,
    Call.overtaken Books.opener (.file "b" "b.db") false
      ⟨([] : Books), ⟨"c", .file "a" "a.db", none⟩, false⟩ = (.done calls, d) ∧
    calls.map Call.pool? = [some 1, none] ∧ d.handle.pool = some 1 ∧
    Books.ledger.opened d.outside 1 = some (.file "b" "b.db") ∧
    Books.ledger.opened d.outside 0 = some (.file "a" "a.db") ∧
    Books.ledger.closed d.outside 0 := by
  let start : Scene Books Nat :=
    { desk := ⟨[], ⟨"c", .file "a" "a.db", none⟩, false⟩
      calls := [.asks, .replaces (.file "b" "b.db")] }
  have hstart : start.IsStart Books.ledger := by
    refine ⟨rfl, fun c hc => ?_, fun p hp => by cases hp⟩
    rcases List.mem_cons.mp hc with rfl | hc
    · exact Or.inl rfl
    · exact Or.inr (Or.inl ⟨_, List.mem_singleton.mp hc⟩)
  obtain ⟨calls, d, h⟩ : ∃ calls d, Call.overtaken Books.opener (.file "b" "b.db") false
      start.desk = (.done calls, d) := ⟨_, _, rfl⟩
  have hfacts : calls.map Call.pool? = [some 1, none] ∧ (∀ c ∈ calls, ∃ r, c = .ended r) ∧
      d.handle.pool = some 1 ∧ d.handle.info = .file "b" "b.db" ∧
      Books.ledger.opened d.outside 0 = some (.file "a" "a.db") := by
    obtain ⟨rfl, rfl⟩ := Work.done_inj h
    exact ⟨rfl, by simp, rfl, rfl, rfl⟩
  obtain ⟨hc, hend, hp, hi, ho⟩ := hfacts
  have hnil : Run Books.opener Books.ledger start [] start := .nil
  obtain ⟨events, seen, hr, he⟩ := run_of_interleave hnil h (by simp)
  obtain ⟨hpool, -, hacc⟩ := pool_belongs_to_details Books.opener_keeps hstart hr
  refine ⟨calls, d, h, hc, hp, hi ▸ (hpool 1 hp).1, ho, ?_⟩
  rcases hacc he hend 0 (Or.inl rfl) (by simp [ho]) with h0 | h0
  · simp [hp] at h0
  · exact h0

end Scene

end SqlGateway
