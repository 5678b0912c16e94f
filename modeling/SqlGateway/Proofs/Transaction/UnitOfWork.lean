import SqlGateway.Proofs.Work.Ends
import SqlGateway.Site.Databases

/-! Units of work as trees. A unit runs statements, each chosen by what came of those before it, and
    hands its transaction on to units of its own:

        begin ─▶ statement ─▶ joined ────────▶ statement ─▶ commit      work succeeds
                                └▶ statement                rollback    work fails

    A transaction works on a copy of the store, which a commit publishes and a rollback discards. A
    joined unit neither begins nor ends a transaction, so the copy holds what all statements of the
    tree made of the store, and the store gets either all of it or nothing. -/

namespace SqlGateway

/-! ### Trees -/

/-- A unit of work with statements `S` that are answered with `R`. Failures are values, so a unit
    may go on after a statement or a joined unit that failed. -/
inductive UnitOfWork (S R : Type) : Type → Type 1 where
  | ends {α : Type} (result : Except Failure α) : UnitOfWork S R α
  | statement {α : Type} (s : S) (next : Except Failure R → UnitOfWork S R α) : UnitOfWork S R α
  | joined {α β : Type} (inner : UnitOfWork S R β) (next : Except Failure β → UnitOfWork S R α) :
      UnitOfWork S R α

/-- What a unit comes to by itself: each statement has its effect on the data, one after another. -/
def UnitOfWork.alone {S R D α : Type} (effect : S → Work D Failure R) :
    UnitOfWork S R α → Work D Failure α
  | .ends r => Work.ofExcept r
  | .statement s next => do alone effect (next (← (effect s).attempt))
  | .joined inner next => do alone effect (next (← (alone effect inner).attempt))

/-- A database that begins and ends transactions, with faults of its own, and runs statements in
    them. -/
structure Backend (σ T S R : Type) where
  start : Work σ Fault T
  commit : T → Work σ Fault Unit
  rollback : T → Work σ Fault Unit
  execute : T → S → Work σ Failure R

/-- What a unit of work does to a database. -/
inductive Mark (T S : Type) where
  | start
  | statement (tx : T) (s : S)
  | commit (tx : T)
  | rollback (tx : T)
  deriving DecidableEq

/-- Work that leaves a mark. -/
def Work.marked {σ ε α M : Type} (m : M) (w : Work σ ε α) : Work (σ × List M) ε α := fun p =>
  let (o, s) := w p.1
  (o, s, p.2 ++ [m])

namespace Backend

variable {σ T S R D α β : Type}

/-- The transactions of the gateway: faults are reported as failures of a transaction. -/
def transactions (b : Backend σ T S R) : Transactions σ T where
  start := b.start.report (Site.transactionFailure "begin")
  commit tx := (b.commit tx).report (Site.transactionFailure "commit")
  rollback tx := (b.rollback tx).report (Site.transactionFailure "roll back")

/-- Do the work of a unit in a transaction. -/
def run (b : Backend σ T S R) {α : Type} (tx : T) : UnitOfWork S R α → Work σ Failure α
  | .ends r => Work.ofExcept r
  | .statement s next => do b.run tx (next (← (b.execute tx s).attempt))
  | .joined inner next => do
    b.run tx (next (← (b.transactions.readCommitted (some tx) fun tx => b.run tx inner).attempt))

/-- Do the work of a unit in a transaction of its own. -/
def unit (b : Backend σ T S R) (u : UnitOfWork S R α) : Work σ Failure α :=
  b.transactions.readCommitted none fun tx => b.run tx u

/-- The same database with a record of what is done to it. -/
def noted (b : Backend σ T S R) : Backend (σ × List (Mark T S)) T S R where
  start := b.start.marked .start
  commit tx := (b.commit tx).marked (.commit tx)
  rollback tx := (b.rollback tx).marked (.rollback tx)
  execute tx s := (b.execute tx s).marked (.statement tx s)

/-- A transaction works on a copy of its own. `Stores s d` says that the store holds the data `d`,
    and `Opened s tx d c` that it holds `d` while the copy of a transaction is `c`. -/
structure IsPrivateCopy (b : Backend σ T S R) (effect : S → Work D Failure R)
    (Stores : σ → D → Prop) (Opened : σ → T → D → D → Prop) : Prop where
  start_done : ∀ {s s' tx d}, Stores s d → b.start s = (.done tx, s') → Opened s' tx d d
  start_failed : ∀ {s s' e d}, Stores s d → b.start s = (.failed e, s') → Stores s' d
  execute : ∀ {s s' tx d c q o}, Opened s tx d c → b.execute tx q s = (o, s') →
    ∃ c', effect q c = (o, c') ∧ Opened s' tx d c'
  commit_done : ∀ {s s' tx d c}, Opened s tx d c → b.commit tx s = (.done (), s') → Stores s' c
  commit_failed : ∀ {s s' tx d c e}, Opened s tx d c → b.commit tx s = (.failed e, s') → Stores s' d
  rollback : ∀ {s s' tx d c o}, Opened s tx d c → b.rollback tx s = (o, s') → Stores s' d

end Backend

/-! ### Work that mirrors other work -/

namespace Work

variable {σ τ ε α β : Type} {Rel : σ → τ → Prop}

/-- From related states work comes to the same and leaves related states. -/
def Mirrors (Rel : σ → τ → Prop) (w : Work σ ε α) (v : Work τ ε α) : Prop :=
  ∀ s t, Rel s t → (w s).1 = (v t).1 ∧ Rel (w s).2 (v t).2

namespace Mirrors

variable {w : Work σ ε α} {v : Work τ ε α}

theorem ofExcept (r : Except ε α) : Mirrors Rel (Work.ofExcept r) (Work.ofExcept r) :=
  fun _ _ h => ⟨rfl, h⟩

theorem withDeadline {w : Work σ Failure α} {v : Work τ Failure α} (ms : Nat)
    (h : Mirrors Rel w v) : Mirrors Rel (w.withDeadline ms) (v.withDeadline ms) :=
  fun s t hst => ⟨congrArg (Outcome.withDeadline ms) (h s t hst).1, (h s t hst).2⟩

theorem attempt {δ : Type} (h : Mirrors Rel w v) :
    Mirrors Rel (w.attempt : Work σ δ _) v.attempt := by
  intro s t hst
  obtain ⟨ho, hs⟩ := h s t hst
  simp only [Work.attempt]
  rcases hw : w s with ⟨_ | _ | _, s'⟩ <;> rcases hv : v t with ⟨_ | _ | _, t'⟩ <;>
    simp_all

theorem bind (h : Mirrors Rel w v) {f : α → Work σ ε β} {g : α → Work τ ε β}
    (hf : ∀ a, Mirrors Rel (f a) (g a)) : Mirrors Rel (w >>= f) (v >>= g) := by
  intro s t hst
  obtain ⟨ho, hs⟩ := h s t hst
  simp only [bind_apply]
  rcases hw : w s with ⟨a | e | _, s'⟩ <;> rw [hw] at ho hs <;>
    rcases hv : v t with ⟨a' | e' | _, t'⟩ <;> rw [hv] at ho hs <;> cases ho
  · exact hf a s' t' hs
  · exact ⟨rfl, hs⟩
  · exact ⟨rfl, hs⟩

end Mirrors

end Work

/-- By induction on the tree: units mirror one another if their statements do. -/
theorem UnitOfWork.mirrors_alone {S R σ τ α : Type} {Rel : σ → τ → Prop}
    {effect : S → Work σ Failure R} {effect' : S → Work τ Failure R}
    (h : ∀ q, (effect q).Mirrors Rel (effect' q)) (u : UnitOfWork S R α) :
    (u.alone effect).Mirrors Rel (u.alone effect') := by
  induction u with
  | ends r => exact .ofExcept r
  | statement q next ih => exact (h q).attempt.bind ih
  | joined inner next ihInner ih => exact ihInner.attempt.bind ih

/-! ### Inside a transaction -/

/-- What statements make of data, one after another. -/
def effects {S R D : Type} (effect : S → Work D Failure R) (d : D) (qs : List S) : D :=
  qs.foldl (fun d q => (effect q d).2) d

namespace Backend

variable {σ T S R D α : Type} {b : Backend σ T S R} {effect : S → Work D Failure R}
  {Stores : σ → D → Prop} {Opened : σ → T → D → D → Prop}

/-- A joined unit neither begins nor ends anything, so in a transaction nothing is done but what the
    statements of the tree do. -/
theorem run_eq_alone (b : Backend σ T S R) (tx : T) (u : UnitOfWork S R α) :
    b.run tx u = u.alone (b.execute tx) := by
  induction u with
  | ends r => rfl
  | statement q next ih => simp only [run, UnitOfWork.alone, ih]
  | joined inner next ihInner ih =>
    simp only [run, Transactions.readCommitted, UnitOfWork.alone, ihInner, ih]

/-- With its record a unit does the same, and no more is recorded than statements. -/
theorem noted_run (b : Backend σ T S R) (tx : T) (u : UnitOfWork S R α) (s : σ)
    (marks : List (Mark T S)) : ∃ qs : List S, b.noted.run tx u (s, marks) =
      ((b.run tx u s).1, (b.run tx u s).2, marks ++ qs.map (.statement tx)) := by
  let Rel (p : σ × List (Mark T S)) (s : σ) : Prop :=
    p.1 = s ∧ ∃ qs : List S, p.2 = marks ++ qs.map (.statement tx)
  have hq (q : S) : (b.noted.execute tx q).Mirrors Rel (b.execute tx q) := by
    rintro ⟨s, _⟩ _ ⟨rfl, qs, rfl⟩
    exact ⟨rfl, rfl, qs ++ [q], by simp [noted, Work.marked]⟩
  obtain ⟨ho, hs, qs, hm⟩ := UnitOfWork.mirrors_alone hq u (s, marks) s ⟨rfl, [], by simp⟩
  rw [run_eq_alone, run_eq_alone]
  exact ⟨qs, Prod.ext ho (Prod.ext hs hm)⟩

/-- In a transaction a unit comes to what it comes to by itself on the copy, and the copy holds what
    the recorded statements made of it. -/
theorem IsPrivateCopy.run (h : b.IsPrivateCopy effect Stores Opened) (u : UnitOfWork S R α)
    {s : σ} {tx : T} {d : D} (ho : Opened s tx d d) (marks : List (Mark T S)) :
    ∃ qs : List S, b.noted.run tx u (s, marks) =
        ((b.run tx u s).1, (b.run tx u s).2, marks ++ qs.map (.statement tx)) ∧
      u.alone effect d = ((b.run tx u s).1, effects effect d qs) ∧
      Opened (b.run tx u s).2 tx d (effects effect d qs) := by
  let Rel (p : σ × List (Mark T S)) (c : D) : Prop :=
    ∃ qs : List S, p.2 = marks ++ qs.map (.statement tx) ∧ c = effects effect d qs ∧
      Opened p.1 tx d c
  have hq (q : S) : (b.noted.execute tx q).Mirrors Rel (effect q) := by
    rintro ⟨s, _⟩ _ ⟨qs, rfl, rfl, ho⟩
    obtain ⟨c', he, ho'⟩ := h.execute ho rfl
    have hc : effects effect d (qs ++ [q]) = c' := by
      rw [effects, List.foldl_append]
      exact congrArg Prod.snd he
    rw [he]
    exact ⟨rfl, qs ++ [q], by simp [noted, Work.marked], hc.symm, ho'⟩
  obtain ⟨hout, qs, hm, hc, ho'⟩ :=
    UnitOfWork.mirrors_alone hq u (s, marks) d ⟨[], by simp, rfl, ho⟩
  rw [← run_eq_alone] at hout hm ho'
  obtain ⟨_, hn⟩ := noted_run b tx u s marks
  rw [hn] at hout hm ho'
  refine ⟨qs, ?_, Prod.ext hout.symm hc, hc ▸ ho'⟩
  rw [hn]
  exact Prod.ext rfl (Prod.ext rfl hm)

end Backend

end SqlGateway
