import SqlGateway.Work.Basic

/-! How work ends, and where it leaves the state. Work is opened up from its end: what a whole came
    to is what its parts came to, one after the other.

        (a >>= b) s ─▶ done      a done, then b done
                    ─▶ failed    a failed, or a done and then b failed

    Whatever it comes to, work moves the state along a relation if all its parts do. -/

namespace SqlGateway.Work

variable {σ τ ε δ α β : Type} {s s' : σ}

instance : LawfulMonad (Work σ ε) := by
  refine LawfulMonad.mk' (Work σ ε) ?_ ?_ ?_
  · intro α w
    funext s
    show (match w s with
      | (.done a, t) => (Outcome.done a, t)
      | (.failed e, t) => (.failed e, t)
      | (.stalled, t) => (.stalled, t)) = _
    rcases w s with ⟨_ | _ | _, t⟩ <;> rfl
  · intros
    rfl
  · intro α β γ w f g
    funext s
    simp only [Bind.bind]
    rcases w s with ⟨_ | _ | _, t⟩ <;> rfl

/-! ### One part after another -/

theorem bind_apply (w : Work σ ε α) (f : α → Work σ ε β) (s : σ) :
    (w >>= f) s = match w s with
      | (.done a, t) => f a t
      | (.failed e, t) => (.failed e, t)
      | (.stalled, t) => (.stalled, t) := rfl

theorem bind_of_done {w : Work σ ε α} {f : α → Work σ ε β} {a : α} (h : w s = (.done a, s')) :
    (w >>= f) s = f a s' := by
  rw [bind_apply, h]

theorem bind_of_failed {w : Work σ ε α} {f : α → Work σ ε β} {e : ε}
    (h : w s = (.failed e, s')) : (w >>= f) s = (.failed e, s') := by
  rw [bind_apply, h]

theorem attempt_bind_of_done {w : Work σ ε α} {f : α → Work σ ε β} {a : α}
    (h : w s = (.done a, s')) : ((w >>= f).attempt : Work σ δ _) s = (f a).attempt s' := by
  rw [attempt, bind_of_done h, attempt]

theorem attempt_bind_of_failed {w : Work σ ε α} {f : α → Work σ ε β} {e : ε}
    (h : w s = (.failed e, s')) :
    ((w >>= f).attempt : Work σ δ _) s = (.done (.error e), s') := by
  rw [attempt, bind_of_failed h]

theorem attempt_within {part : τ → σ} {put : σ → τ → τ} (w : Work σ ε α) :
    ((w.within part put).attempt : Work τ δ _) = w.attempt.within part put := by
  funext t
  simp only [attempt, within]
  rcases w (part t) with ⟨_ | _ | _, s⟩ <;> rfl

/-! ### Parts of work that is done or has failed -/

theorem done_inj {a b : α}
    (h : ((.done a, s) : Outcome ε α × σ) = (.done b, s')) : b = a ∧ s' = s := by
  obtain ⟨ha, rfl⟩ := Prod.mk.inj h
  exact ⟨(Outcome.done.inj ha).symm, rfl⟩

theorem bind_eq_done_iff {w : Work σ ε α} {f : α → Work σ ε β} {b : β} :
    (w >>= f) s = (.done b, s') ↔ ∃ a t, w s = (.done a, t) ∧ f a t = (.done b, s') := by
  show (match w s with
    | (.done a, t) => f a t
    | (.failed e, t) => (.failed e, t)
    | (.stalled, t) => (.stalled, t)) = _ ↔ _
  rcases w s with ⟨_ | _ | _, t⟩ <;> simp [and_assoc]

theorem bind_eq_failed_iff {w : Work σ ε α} {f : α → Work σ ε β} {e : ε} :
    (w >>= f) s = (.failed e, s') ↔
      w s = (.failed e, s') ∨ ∃ a t, w s = (.done a, t) ∧ f a t = (.failed e, s') := by
  show (match w s with
    | (.done a, t) => f a t
    | (.failed e, t) => (.failed e, t)
    | (.stalled, t) => (.stalled, t)) = _ ↔ _
  rcases w s with ⟨_ | _ | _, t⟩ <;> simp [and_assoc]

theorem bind_eq_stalled_iff {w : Work σ ε α} {f : α → Work σ ε β} :
    (w >>= f) s = (.stalled, s') ↔
      w s = (.stalled, s') ∨ ∃ a t, w s = (.done a, t) ∧ f a t = (.stalled, s') := by
  show (match w s with
    | (.done a, t) => f a t
    | (.failed e, t) => (.failed e, t)
    | (.stalled, t) => (.stalled, t)) = _ ↔ _
  rcases w s with ⟨_ | _ | _, t⟩ <;> simp [and_assoc]

theorem pure_eq_done_iff {a b : α} :
    (pure a : Work σ ε α) s = (.done b, s') ↔ b = a ∧ s' = s := by
  show (Outcome.done a, s) = _ ↔ _
  simp [eq_comm]

theorem pure_ne_failed {a : α} {e : ε} : (pure a : Work σ ε α) s ≠ (.failed e, s') := by
  rintro ⟨⟩

theorem attempt_eq_ok_iff {w : Work σ ε α} {a : α} :
    (w.attempt : Work σ δ _) s = (.done (.ok a), s') ↔ w s = (.done a, s') := by
  rw [attempt]
  rcases w s with ⟨_ | _ | _, t⟩ <;> simp

theorem attempt_eq_error_iff {w : Work σ ε α} {e : ε} :
    (w.attempt : Work σ δ _) s = (.done (.error e), s') ↔ w s = (.failed e, s') := by
  rw [attempt]
  rcases w s with ⟨_ | _ | _, t⟩ <;> simp

theorem attempt_ne_failed {w : Work σ ε α} {e : δ} : w.attempt s ≠ (.failed e, s') := by
  rw [attempt]
  rcases w s with ⟨_ | _ | _, t⟩ <;> simp

theorem attempt_eq_stalled_iff {w : Work σ ε α} :
    (w.attempt : Work σ δ _) s = (.stalled, s') ↔ w s = (.stalled, s') := by
  rw [attempt]
  rcases w s with ⟨_ | _ | _, t⟩ <;> simp

theorem report_ne_failed {w : Work σ Empty α} {f : Empty → δ} {e : δ} :
    w.report f s ≠ (.failed e, s') := by
  rw [report]
  rcases w s with ⟨_ | e | _, t⟩
  · simp
  · exact e.elim
  · simp

theorem fail_eq_failed_iff {e e' : ε} :
    (fail e : Work σ ε α) s = (.failed e', s') ↔ e' = e ∧ s' = s := by
  rw [fail]
  simp [eq_comm]

theorem within_eq_iff {part : τ → σ} {put : σ → τ → τ} {w : Work σ ε α} {o : Outcome ε α}
    {t t' : τ} : w.within part put t = (o, t') ↔ ∃ s, w (part t) = (o, s) ∧ t' = put s t := by
  rw [within]
  rcases w (part t) with ⟨o', s⟩
  simp only [Prod.mk.injEq]
  constructor
  · rintro ⟨rfl, rfl⟩
    exact ⟨s, ⟨rfl, rfl⟩, rfl⟩
  · rintro ⟨_, ⟨rfl, rfl⟩, rfl⟩
    exact ⟨rfl, rfl⟩

/-! ### Moves -/

/-- Whatever the work comes to, it moves the state along a relation. -/
def Moves (R : σ → σ → Prop) (w : Work σ ε α) : Prop := ∀ s, R s (w s).2

/-- The work leaves what a function shows of the state as it is. -/
def Keeps {γ : Type} (f : σ → γ) (w : Work σ ε α) : Prop := w.Moves fun s s' => f s' = f s

namespace Moves

variable {R : σ → σ → Prop} {w : Work σ ε α}

theorem apply (h : w.Moves R) {o : Outcome ε α} (hw : w s = (o, s')) : R s s' := by
  have hs := h s
  rwa [hw] at hs

theorem pure (hr : ∀ s, R s s) (a : α) : (pure a : Work σ ε α).Moves R := hr

/-- From one state, if the second part moves on from where the first is done. -/
theorem bind_at (ht : ∀ s t u, R s t → R t u → R s u) {s : σ} (h : R s (w s).2)
    {f : α → Work σ ε β} (hf : ∀ a t, w s = (.done a, t) → R t (f a t).2) :
    R s ((w >>= f) s).2 := by
  show R s (match w s with
    | (.done a, t) => f a t
    | (.failed e, t) => (.failed e, t)
    | (.stalled, t) => (.stalled, t)).2
  rcases hw : w s with ⟨a | e | _, t⟩ <;> rw [hw] at h
  · exact ht _ _ _ h (hf a t hw)
  · exact h
  · exact h

theorem bind (ht : ∀ s t u, R s t → R t u → R s u) (h : w.Moves R) {f : α → Work σ ε β}
    (hf : ∀ a, (f a).Moves R) : (w >>= f).Moves R :=
  fun s => bind_at ht (h s) fun a t _ => hf a t

theorem attempt (h : w.Moves R) : (w.attempt : Work σ δ _).Moves R := by
  intro s
  have hs := h s
  rw [Work.attempt]
  rcases hw : w s with ⟨_ | _ | _, t⟩ <;> rw [hw] at hs <;> exact hs

theorem report (h : w.Moves R) (f : ε → δ) : (w.report f).Moves R := by
  intro s
  have hs := h s
  rw [Work.report]
  rcases hw : w s with ⟨_ | _ | _, t⟩ <;> rw [hw] at hs <;> exact hs

theorem within {S : τ → τ → Prop} {part : τ → σ} {put : σ → τ → τ} (h : w.Moves R)
    (hp : ∀ t s', R (part t) s' → S t (put s' t)) : (w.within part put).Moves S :=
  fun t => hp t _ (h (part t))

theorem mapM {γ : Type} (hr : ∀ s, R s s) (ht : ∀ s t u, R s t → R t u → R s u)
    {f : γ → Work σ ε α} (hf : ∀ c, (f c).Moves R) (cs : List γ) : (cs.mapM f).Moves R := by
  induction cs with
  | nil => exact pure hr _
  | cons c cs ih =>
    rw [List.mapM_cons]
    refine bind ht (hf c) fun a => bind ht ih fun as => ?_
    exact pure hr _

end Moves

end SqlGateway.Work
