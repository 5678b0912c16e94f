import SqlGateway.Proofs.Work.Ends
import Mathlib.Data.List.Forall2

/-! Two runs in step. The state remembers what came back from outside, in a history that only grows,
    and of states and of results only a part can be seen. Two pieces of work are in step if they
    cannot part on their own: from states that look and remember the same they come to ends that look
    the same, unless something else came back on the way.

        a  b  c         a  b  c  d        together: what came before is the same
        a  b  c         a  b  x           parted: nothing is claimed

    What is put together of parts in step is in step. -/

namespace SqlGateway

/-- Change the value of what is done. -/
def Outcome.map {ε α ω : Type} (f : α → ω) : Outcome ε α → Outcome ε ω
  | .done a => .done (f a)
  | .failed e => .failed e
  | .stalled => .stalled

/-- What work came to, as a value. -/
def Outcome.result {ε δ α : Type} : Outcome ε α → Outcome δ (Except ε α)
  | .done a => .done (.ok a)
  | .failed e => .done (.error e)
  | .stalled => .stalled

/-- A failure in another form. -/
def Outcome.report {ε δ α : Type} (f : ε → δ) : Outcome ε α → Outcome δ α
  | .done a => .done a
  | .failed e => .failed (f e)
  | .stalled => .stalled

theorem Outcome.map_id {ε α : Type} (o : Outcome ε α) : o.map id = o := by cases o <;> rfl

namespace Work

variable {τ σ κ ρ ρ' ε δ α β γ ω ω' : Type}

/-- Do the work and go on with its end. -/
def outcome (w : Work τ ε α) : Work τ δ (Outcome ε α) := fun t => (.done (w t).1, (w t).2)

/-- Neither history has parted from the other one. -/
def Together (l l' : List κ) : Prop := l <+: l' ∨ l' <+: l

theorem Together.of_prefix {l l' m m' : List κ} (h : Together m m') (hl : l <+: m)
    (hl' : l' <+: m') : Together l l' := by
  rcases h with h | h
  · exact List.prefix_or_prefix_of_prefix (hl.trans h) hl'
  · exact List.prefix_or_prefix_of_prefix hl (hl'.trans h)

/-- The history goes on from one state to the other. -/
def Grows (history : τ → List κ) (t u : τ) : Prop := history t <+: history u

/-- Two ends that look and remember the same. -/
structure Meets (history : τ → List κ) (see : τ → ρ) (view : α → ω) (r r' : Outcome ε α × τ) :
    Prop where
  outcome : r.1.map view = r'.1.map view
  state : see r.2 = see r'.2
  history : history r.2 = history r'.2

/-- Two pieces of work that part only when something else comes back from outside. -/
structure Lockstep (history : τ → List κ) (see : τ → ρ) (view : α → ω) (w w' : Work τ ε α) :
    Prop where
  grows : w.Moves (Grows history)
  grows' : w'.Moves (Grows history)
  meets : ∀ t t', see t = see t' → history t = history t' →
    Together (history (w t).2) (history (w' t').2) → Meets history see view (w t) (w' t')

namespace Lockstep

variable {history : τ → List κ} {see : τ → ρ} {view : α → ω} {view' : β → ω'} {w w' : Work τ ε α}

theorem pure {a b : α} (h : view a = view b) :
    Lockstep history see view (pure a : Work τ ε α) (pure b) where
  grows _ := List.prefix_rfl
  grows' _ := List.prefix_rfl
  meets _ _ hs hh _ := ⟨congrArg Outcome.done h, hs, hh⟩

theorem fail (e : ε) : Lockstep history see view (fail e) (fail e) where
  grows _ := List.prefix_rfl
  grows' _ := List.prefix_rfl
  meets _ _ hs hh _ := ⟨rfl, hs, hh⟩

theorem state : Lockstep history see see (Work.state : Work τ ε τ) Work.state where
  grows _ := List.prefix_rfl
  grows' _ := List.prefix_rfl
  meets _ _ hs hh _ := ⟨congrArg Outcome.done hs, hs, hh⟩

theorem change {f f' : τ → τ} (hf : ∀ t, history (f t) = history t)
    (hf' : ∀ t, history (f' t) = history t) (h : ∀ t t', see t = see t' → see (f t) = see (f' t')) :
    Lockstep history see id (Work.change f : Work τ ε Unit) (Work.change f') where
  grows t := ⟨[], (List.append_nil _).trans (hf t).symm⟩
  grows' t := ⟨[], (List.append_nil _).trans (hf' t).symm⟩
  meets t t' hs hh _ := ⟨rfl, h t t' hs, (hf t).trans (hh.trans (hf' t').symm)⟩

theorem ofExcept {r r' : Except ε α} (h : r.map view = r'.map view) :
    Lockstep history see view (ofExcept r) (ofExcept r') where
  grows _ := List.prefix_rfl
  grows' _ := List.prefix_rfl
  meets _ _ hs hh _ := by
    refine ⟨?_, hs, hh⟩
    cases r <;> cases r' <;> first
      | exact congrArg Outcome.failed (Except.error.inj h)
      | exact congrArg Outcome.done (Except.ok.inj h)
      | nomatch h

theorem ofExcept_self (r : Except ε α) :
    Lockstep history see id (Work.ofExcept r) (Work.ofExcept r) := ofExcept rfl

/-- What a part came to decides how it goes on; a part alone may be compared with itself, so what
    follows it grows the history whatever it came to. -/
theorem bind (h : Lockstep history see view w w') {f f' : α → Work τ ε β}
    (hf : ∀ a b, view a = view b → Lockstep history see view' (f a) (f' b)) :
    Lockstep history see view' (w >>= f) (w' >>= f') where
  grows := Moves.bind (R := Grows history) (fun _ _ _ => List.IsPrefix.trans) h.grows fun a =>
    (hf a a rfl).grows
  grows' := Moves.bind (R := Grows history) (fun _ _ _ => List.IsPrefix.trans) h.grows' fun a =>
    (hf a a rfl).grows'
  meets t t' hs hh ht := by
    have hgrow (a : α) (u : τ) : history u <+: history (f a u).2 := (hf a a rfl).grows u
    have hgrow' (a : α) (u : τ) : history u <+: history (f' a u).2 := (hf a a rfl).grows' u
    have hmeet := h.meets t t' hs hh
    rw [bind_apply, bind_apply] at ht ⊢
    rcases hw : w t with ⟨a | e | _, u⟩ <;> rcases hw' : w' t' with ⟨b | e' | _, u'⟩ <;>
      rw [hw, hw'] at hmeet ht
    · obtain ⟨ho, hu, hhu⟩ := hmeet (ht.of_prefix (hgrow a u) (hgrow' b u'))
      exact (hf a b (Outcome.done.inj ho)).meets u u' hu hhu ht
    · nomatch (hmeet (ht.of_prefix (hgrow a u) List.prefix_rfl)).outcome
    · nomatch (hmeet (ht.of_prefix (hgrow a u) List.prefix_rfl)).outcome
    · nomatch (hmeet (ht.of_prefix List.prefix_rfl (hgrow' b u'))).outcome
    · obtain ⟨ho, hu, hhu⟩ := hmeet ht
      exact ⟨congrArg Outcome.failed (Outcome.failed.inj ho), hu, hhu⟩
    · nomatch (hmeet ht).outcome
    · nomatch (hmeet (ht.of_prefix List.prefix_rfl (hgrow' b u'))).outcome
    · nomatch (hmeet ht).outcome
    · obtain ⟨-, hu, hhu⟩ := hmeet ht
      exact ⟨rfl, hu, hhu⟩

theorem bind_same (h : Lockstep history see id w w') {f f' : α → Work τ ε β}
    (hf : ∀ a, Lockstep history see view' (f a) (f' a)) :
    Lockstep history see view' (w >>= f) (w' >>= f') :=
  h.bind fun a b hab => by
    obtain rfl : a = b := hab
    exact hf a

/-- What the work came to, in another form that shows no more. -/
theorem ends {g : Outcome ε α → Outcome δ β} (h : Lockstep history see view w w')
    (hg : ∀ o o', o.map view = o'.map view → (g o).map view' = (g o').map view')
    {v v' : Work τ δ β} (hv : ∀ t, v t = (g (w t).1, (w t).2))
    (hv' : ∀ t, v' t = (g (w' t).1, (w' t).2)) : Lockstep history see view' v v' where
  grows t := by
    rw [hv]
    exact h.grows t
  grows' t := by
    rw [hv']
    exact h.grows' t
  meets t t' hs hh ht := by
    rw [hv, hv'] at ht ⊢
    obtain ⟨ho, hu, hhu⟩ := h.meets t t' hs hh ht
    exact ⟨hg _ _ ho, hu, hhu⟩

theorem attempt (h : Lockstep history see view w w') :
    Lockstep history see (Except.map view) (w.attempt : Work τ δ (Except ε α)) w'.attempt := by
  have hends (w : Work τ ε α) (t : τ) :
      (w.attempt : Work τ δ _) t = ((w t).1.result, (w t).2) := by
    rw [Work.attempt]
    rcases w t with ⟨_ | _ | _, u⟩ <;> rfl
  refine h.ends (fun o o' ho => ?_) (hends w) (hends w')
  cases o <;> cases o' <;> simp_all [Outcome.map, Outcome.result, Except.map]

/-- Work that goes on with what another one came to. -/
theorem attempt_bind (h : Lockstep history see view w w')
    {f f' : Except ε α → Work τ δ β}
    (hok : ∀ a b, view a = view b → Lockstep history see view' (f (.ok a)) (f' (.ok b)))
    (herror : ∀ e, Lockstep history see view' (f (.error e)) (f' (.error e))) :
    Lockstep history see view' (w.attempt >>= f) (w'.attempt >>= f') := by
  refine h.attempt.bind fun r r' hr => ?_
  cases r with
  | ok a =>
    cases r' with
    | ok b => exact hok a b (Except.ok.inj hr)
    | error e => nomatch hr
  | error e =>
    cases r' with
    | ok b => nomatch hr
    | error e' =>
      obtain rfl := Except.error.inj hr
      exact herror e

theorem report (h : Lockstep history see view w w') (f : ε → δ) :
    Lockstep history see view (w.report f) (w'.report f) := by
  have hends (w : Work τ ε α) (t : τ) : (w.report f) t = ((w t).1.report f, (w t).2) := by
    rw [Work.report]
    rcases w t with ⟨_ | _ | _, u⟩ <;> rfl
  refine h.ends (fun o o' ho => ?_) (hends w) (hends w')
  cases o <;> cases o' <;> simp_all [Outcome.map, Outcome.report]

theorem withDeadline {w w' : Work τ Failure α} (h : Lockstep history see view w w') (ms : Nat) :
    Lockstep history see view (w.withDeadline ms) (w'.withDeadline ms) := by
  refine h.ends (g := Outcome.withDeadline ms) (fun o o' ho => ?_) (fun _ => rfl) fun _ => rfl
  cases o <;> cases o' <;> simp_all [Outcome.map, Outcome.withDeadline]

theorem bounded {w w' : Work τ Failure α} (h : Lockstep history see view w w') (ms : Option Nat) :
    Lockstep history see view (w.bounded ms) (w'.bounded ms) := by
  cases ms with
  | none => exact h
  | some ms => exact h.withDeadline ms

/-- Work on a part of the state, where the part shows no more than the whole. -/
theorem within {history' : σ → List κ} {see' : σ → ρ'} {v v' : Work σ ε α}
    (h : Lockstep history' see' view v v') {part part' : τ → σ} {put put' : σ → τ → τ}
    (hpart : ∀ t, history' (part t) = history t) (hpart' : ∀ t, history' (part' t) = history t)
    (hput : ∀ s t, history (put s t) = history' s) (hput' : ∀ s t, history (put' s t) = history' s)
    (hin : ∀ t t', see t = see t' → see' (part t) = see' (part' t'))
    (hout : ∀ s s' t t', see' s = see' s' → see t = see t' → see (put s t) = see (put' s' t')) :
    Lockstep history see view (v.within part put) (v'.within part' put') where
  grows t := by
    have hg : history' (part t) <+: history' (v (part t)).2 := h.grows (part t)
    rw [hpart, ← hput _ t] at hg
    exact hg
  grows' t := by
    have hg : history' (part' t) <+: history' (v' (part' t)).2 := h.grows' (part' t)
    rw [hpart', ← hput' _ t] at hg
    exact hg
  meets t t' hs hh ht := by
    have hh' : history' (part t) = history' (part' t') := by rw [hpart, hpart', hh]
    have ht' : Together (history' (v (part t)).2) (history' (v' (part' t')).2) := by
      rw [← hput _ t, ← hput' _ t']
      exact ht
    obtain ⟨ho, hu, hhu⟩ := h.meets _ _ (hin t t' hs) hh' ht'
    exact ⟨ho, hout _ _ t t' hu hs, (hput _ t).trans (hhu.trans (hput' _ t').symm)⟩

theorem mapM {R : γ → γ → Prop} {f f' : γ → Work τ ε α}
    (h : ∀ c c', R c c' → Lockstep history see view (f c) (f' c')) {cs cs' : List γ}
    (hc : List.Forall₂ R cs cs') :
    Lockstep history see (List.map view) (cs.mapM f) (cs'.mapM f') := by
  induction hc with
  | nil => exact pure rfl
  | cons hc _ ih =>
    rw [List.mapM_cons, List.mapM_cons]
    refine bind (h _ _ hc) fun a b hab => bind ih fun as bs habs => ?_
    exact pure (by rw [List.map_cons, List.map_cons, hab, habs])

/-- The end of work, as a value that is always there. -/
theorem outcome {w w' : Work τ ε α} (h : Lockstep history see id w w') :
    Lockstep history see id (w.outcome : Work τ δ (Outcome ε α)) w'.outcome := by
  refine h.ends (fun o o' ho => ?_) (fun _ => rfl) fun _ => rfl
  rw [Outcome.map_id, Outcome.map_id] at ho
  rw [ho]

/-- Runs whose whole histories are the same come to the same end. -/
theorem meets_of_eq (h : Lockstep history see view w w') {t t' : τ} (hs : see t = see t')
    (hh : history t = history t') (hend : history (w t).2 = history (w' t').2) :
    Meets history see view (w t) (w' t') :=
  h.meets t t' hs hh (.inl (hend ▸ List.prefix_rfl))

end Lockstep

end Work

end SqlGateway
