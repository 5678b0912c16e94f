import SqlGateway.Failure.Basic
import SqlGateway.Proofs.Query.Accepted
import SqlGateway.Proofs.Query.Descendants

/-! Well-formed queries. What a query has to be like is said here of its tree and its columns, in no
    order; an update or a delete has to be safe as well:

        well-formed and safe    a statement
        well-formed, not safe   blocked as dangerous
        not well-formed         not compiled, safe or not

    The checks are made one after the other, and the one for safety is the last. -/

namespace SqlGateway

namespace Query

/-- Every column that a query names. -/
def references (q : Query) : List ColumnRef :=
  q.columns ++ (q.table.descendants.flatMap fun j => j.conditions.flatMap fun c => [c.left, c.right])
    ++ q.filters ++ q.orderBy

/-- A query that reads and is put together right. -/
structure IsReadable (d : Dialect) (q : Query) : Prop where
  columns_ne : q.columns ≠ []
  aliases_nodup : (q.table.tables.map JoinTree.aliasName).Nodup
  conditions_ne : ∀ j ∈ q.table.descendants, j.conditions ≠ []
  conditions_plain : ∀ j ∈ q.table.descendants, ∀ c ∈ j.conditions,
    c.left.aggregate = none ∧ c.right.aggregate = none
  filters_plain : ∀ c ∈ q.filters, c.aggregate = none
  resolved : ∀ c ∈ q.references, ∃ t ∈ q.table.tables, t.aliasName = c.tableAlias q.root
  labels_fit : d = .postgres → ∀ c ∈ q.columns, (c.label q.root).utf8ByteSize ≤ 63

/-- A query that writes one table, with plain columns of that table. -/
structure IsWritable (q : Query) : Prop where
  joins_eq : q.table.joins = []
  orderBy_eq : q.orderBy = []
  limit_eq : q.limit = none
  offset_eq : q.offset = none
  plain : ∀ c ∈ q.columns ++ q.filters, c.aggregate = none
  resolved : ∀ c ∈ q.columns ++ q.filters, c.tableAlias q.root = q.table.aliasName

/-- A query that is put together right. -/
def IsWellFormed (d : Dialect) (q : Query) : Prop :=
  match q.kind with
  | .select => q.IsReadable d
  | .insert => q.IsWritable ∧ q.columns ≠ [] ∧ q.filters = []
  | .update => q.IsWritable ∧ q.columns ≠ []
  | .delete => q.IsWritable ∧ q.columns = []

/-- An update or a delete has a condition, or may go without. -/
def IsSafe (q : Query) : Prop :=
  q.kind = .update ∨ q.kind = .delete →
    q.allowUnfiltered = true ∨ ∃ c ∈ q.filters, c.value.isSome

/-- The statement of a query, or the failure that is reported for it. -/
def answer (d : Dialect) (q : Query) : Except Failure Statement :=
  (q.compile d).mapError Failure.ofRejection

/-! ### Sound queries are the well-formed and safe ones -/

theorem aliases_perm (q : Query) :
    q.table.aliases.Perm (q.table.tables.map JoinTree.aliasName) := by
  have h : q.table.aliases = (q.table :: q.table.levelOrder.map Join.table).map
      JoinTree.aliasName := by simp [JoinTree.aliases]
  rw [h]
  exact (JoinTree.tables_perm q.table).map _

theorem mem_aliases_iff {q : Query} {a : String} :
    a ∈ q.table.aliases ↔ ∃ t ∈ q.table.tables, t.aliasName = a := by
  rw [q.aliases_perm.mem_iff, List.mem_map]

theorem aliases_nodup_iff {q : Query} :
    q.table.aliases.Nodup ↔ (q.table.tables.map JoinTree.aliasName).Nodup :=
  q.aliases_perm.nodup_iff

theorem isSoundSelect_iff {d : Dialect} {q : Query} : q.IsSoundSelect d ↔ q.IsReadable d := by
  have hm (j : Join) : j ∈ q.table.levelOrder ↔ j ∈ q.table.descendants :=
    (JoinTree.levelOrder_perm q.table).mem_iff
  have hl : (∀ n ∈ d.maxIdentifierLength, ∀ c ∈ q.columns, (c.label q.root).utf8ByteSize ≤ n) ↔
      (d = .postgres → ∀ c ∈ q.columns, (c.label q.root).utf8ByteSize ≤ 63) := by
    cases d <;> simp [Dialect.maxIdentifierLength]
  constructor
  · rintro ⟨hc, hn, hp, hj, hf, ho⟩
    refine ⟨hc, aliases_nodup_iff.mp hn, ?_, ?_, fun c h => (hf c h).2, ?_, ?_⟩
    · exact fun j h => (hj j ((hm j).mpr h)).1
    · exact fun j h c h' => ((hj j ((hm j).mpr h)).2 c h').1
    · intro c h
      refine mem_aliases_iff.mp ?_
      simp only [references, List.mem_append, List.mem_flatMap, List.mem_cons, List.not_mem_nil,
        or_false] at h
      rcases h with ((h | ⟨j, h, k, hk, rfl | rfl⟩) | h) | h
      · exact (hp c h).1
      · exact ((hj j ((hm j).mpr h)).2 k hk).2.1
      · exact ((hj j ((hm j).mpr h)).2 k hk).2.2
      · exact (hf c h).1
      · exact ho c h
    · exact hl.mp fun n hn c h => (hp c h).2 n hn
  · rintro ⟨hc, hn, hj, hp, hf, hr, hl'⟩
    have hr' {c : ColumnRef} (h : c ∈ q.references) : q.Resolves c := mem_aliases_iff.mpr (hr c h)
    have hk {j : Join} {k : Condition} (h : j ∈ q.table.levelOrder) (hk : k ∈ j.conditions) :
        ∀ c ∈ [k.left, k.right], q.Resolves c := by
      intro c hc
      refine hr' ?_
      simp only [references, List.mem_append, List.mem_flatMap]
      exact Or.inl (Or.inl (Or.inr ⟨j, (hm j).mp h, k, hk, hc⟩))
    refine ⟨hc, aliases_nodup_iff.mpr hn, ?_, ?_, ?_, ?_⟩
    · intro c h
      exact ⟨hr' (by simp [references, h]), fun n hn => hl.mpr hl' n hn c h⟩
    · intro j h
      refine ⟨hj j ((hm j).mp h), fun k h' => ⟨hp j ((hm j).mp h) k h', ?_, ?_⟩⟩
      · exact hk h h' _ (by simp)
      · exact hk h h' _ (by simp)
    · exact fun c h => ⟨hr' (by simp [references, h]), hf c h⟩
    · exact fun c h => hr' (by simp [references, h])

theorem isSingle_iff {q : Query} : q.IsSingle ↔ q.IsWritable := by
  constructor
  · rintro ⟨hj, ⟨⟨ho, hl⟩, hs⟩, hc⟩
    exact ⟨hj, ho, hl, hs, fun c h => (hc c h).1, fun c h => (hc c h).2⟩
  · rintro ⟨hj, ho, hl, hs, hp, hr⟩
    exact ⟨hj, ⟨⟨ho, hl⟩, hs⟩, fun c h => ⟨hp c h, hr c h⟩⟩

theorem isSafe_iff {q : Query} (h : q.kind = .update ∨ q.kind = .delete) :
    q.IsSafe ↔ q.IsGuarded := by
  simp [IsSafe, IsGuarded, h, Option.isSome_iff_ne_none]

theorem isSound_iff {d : Dialect} {q : Query} : q.IsSound d ↔ q.IsWellFormed d ∧ q.IsSafe := by
  rw [IsSound, IsWellFormed]
  cases hk : q.kind with
  | select => simp [isSoundSelect_iff, IsSafe, hk]
  | insert => simp [isSingle_iff, IsSafe, hk]
  | update =>
    simp only [isSingle_iff, isSafe_iff (Or.inl hk), and_assoc]
  | delete =>
    simp only [isSingle_iff, isSafe_iff (Or.inr hk), and_assoc]

end Query

/-! ### What is reported -/

/-- The rejection of a query that is put together wrong. -/
def Rejection.IsMalformed (r : Rejection) : Prop :=
  ∃ message, Failure.ofRejection r = .compileFailed message

section FailsWith

variable {ε α β : Type} {P : ε → Prop}

/-- A computation whose errors are all of one sort. -/
def FailsWith (P : ε → Prop) (x : Except ε α) : Prop := ∀ e, x = .error e → P e

theorem bind_eq_error_iff {x : Except ε α} {f : α → Except ε β} {e : ε} :
    (x >>= f) = .error e ↔ x = .error e ∨ ∃ a, x = .ok a ∧ f a = .error e := by
  cases x with
  | error e' => simp [bind, Except.bind]
  | ok a => simp [bind, Except.bind]

theorem pure_ne_error {a : α} {e : ε} : (pure a : Except ε α) = .error e ↔ False := by
  simp [pure, Except.pure]

/-- A check that throws, and what follows it. -/
theorem check_eq_error_iff {c : Prop} [Decidable c] {e e' : ε} {x : Except ε β}
    {y : α → Except ε β} : (if c then (throw e : Except ε α) >>= y else x) = .error e' ↔
      c ∧ e' = e ∨ ¬ c ∧ x = .error e' := by
  by_cases h : c
  · simp [h, throw, throwThe, MonadExceptOf.throw, bind, Except.bind, eq_comm]
  · simp [h]

namespace FailsWith

theorem ok (a : α) : FailsWith P (.ok a : Except ε α) := fun _ h => nomatch h

theorem error {e : ε} (h : P e) : FailsWith P (.error e : Except ε α) := by
  rintro e' he
  exact Except.error.inj he ▸ h

theorem bind {x : Except ε α} {f : α → Except ε β} (hx : FailsWith P x)
    (hf : ∀ a, FailsWith P (f a)) : FailsWith P (x >>= f) := by
  intro e h
  rcases bind_eq_error_iff.mp h with h | ⟨a, -, h⟩
  · exact hx e h
  · exact hf a e h

/-- A check that throws, and what follows it. -/
theorem check {c : Prop} [Decidable c] {e : ε} {x : Except ε β} {y : α → Except ε β} (h : P e)
    (hx : FailsWith P x) : FailsWith P (if c then (throw e : Except ε α) >>= y else x) := by
  split
  · exact error h
  · exact hx

theorem mapM {f : α → Except ε β} (h : ∀ a, FailsWith P (f a)) (as : List α) :
    FailsWith P (as.mapM f) := by
  induction as with
  | nil => exact ok []
  | cons a as ih =>
    rw [List.mapM_cons]
    exact (h a).bind fun _ => ih.bind fun _ => ok _

theorem forM {f : α → Except ε Unit} (h : ∀ a, FailsWith P (f a)) (as : List α) :
    FailsWith P (as.forM f) := by
  induction as with
  | nil => exact ok ()
  | cons a as ih =>
    rw [List.forM_eq_forM, List.forM_cons, ← List.forM_eq_forM]
    exact (h a).bind fun _ => ih

end FailsWith

end FailsWith

namespace JoinPlan

theorem enter_failsWith (aliases : List String) (js : List Join) :
    FailsWith Rejection.IsMalformed (enter aliases js) := by
  induction js generalizing aliases with
  | nil => exact .ok _
  | cons j js ih =>
    rw [enter]
    split
    · exact .error ⟨_, rfl⟩
    · exact ih _

theorem walk_failsWith (fuel : Nat) (queue : List JoinTree) (plan : JoinPlan) :
    FailsWith Rejection.IsMalformed (walk fuel queue plan) := by
  induction fuel generalizing queue plan with
  | zero => exact .ok _
  | succ fuel ih =>
    cases queue with
    | nil => exact .ok _
    | cons table queue =>
      rw [walk]
      cases he : enter plan.aliases table.joins with
      | error e => exact .error (enter_failsWith _ _ e he)
      | ok aliases => exact ih _ _

theorem resolve_failsWith (plan : JoinPlan) (root : TableKey) (c : ColumnRef) :
    FailsWith Rejection.IsMalformed (plan.resolve root c) := by
  rw [resolve]
  split
  · exact .ok _
  · exact .error ⟨_, rfl⟩

end JoinPlan

namespace Plan

open JoinPlan (resolve_failsWith walk_failsWith)

variable {joins : JoinPlan} {root : TableKey}

theorem project_failsWith (limit : Option Nat) (c : ColumnRef) :
    FailsWith Rejection.IsMalformed (project joins root limit c) :=
  (resolve_failsWith joins root c).bind fun _ => .check ⟨_, rfl⟩ (.ok _)

theorem bindTest_failsWith (c : Condition) :
    FailsWith Rejection.IsMalformed (bindTest joins root c) :=
  .check ⟨_, rfl⟩ <| (resolve_failsWith joins root c.left).bind fun _ =>
    (resolve_failsWith joins root c.right).bind fun _ => .ok _

theorem bindJoin_failsWith (j : Join) : FailsWith Rejection.IsMalformed (bindJoin joins root j) :=
  .check ⟨_, rfl⟩ <| (FailsWith.mapM bindTest_failsWith _).bind fun _ => .ok _

theorem filterTest_failsWith (c : ColumnRef) : FailsWith Rejection.IsMalformed (filterTest c) := by
  rw [filterTest]
  split
  · exact .error ⟨_, rfl⟩
  · exact .ok _

theorem bindFilter_failsWith (c : ColumnRef) :
    FailsWith Rejection.IsMalformed (bindFilter joins root c) :=
  (resolve_failsWith joins root c).bind fun _ => (filterTest_failsWith c).bind fun _ => .ok _

theorem bindSort_failsWith (c : ColumnRef) :
    FailsWith Rejection.IsMalformed (bindSort joins root c) :=
  (resolve_failsWith joins root c).bind fun _ => .ok _

theorem ofSelect_failsWith (d : Dialect) (q : Query) :
    FailsWith Rejection.IsMalformed (ofSelect d q) :=
  .check ⟨_, rfl⟩ <| (walk_failsWith _ _ _).bind fun _ =>
    (FailsWith.mapM (project_failsWith _) _).bind fun _ =>
    (FailsWith.mapM bindJoin_failsWith _).bind fun _ =>
    (FailsWith.mapM bindFilter_failsWith _).bind fun _ =>
    (FailsWith.mapM bindSort_failsWith _).bind fun _ => .ok _

theorem checkSingleTable_failsWith (q : Query) :
    FailsWith Rejection.IsMalformed (checkSingleTable q) := by
  have hw (c : ColumnRef) : FailsWith Rejection.IsMalformed (checkWritten q c) := by
    rw [checkWritten]
    split
    · exact .error ⟨_, rfl⟩
    · split
      · exact .error ⟨_, rfl⟩
      · exact .ok _
  exact .check ⟨_, rfl⟩ (.check ⟨_, rfl⟩ (.forM hw _))

/-- The filters of a write are rejected as malformed or for want of a condition. -/
theorem writeFilters_eq_error {q : Query} {e : Rejection} (h : writeFilters q = .error e) :
    e.IsMalformed ∨ e = .unfilteredWrite q.kind := by
  have hf : FailsWith Rejection.IsMalformed (q.filters.mapM bindWriteFilter) :=
    .mapM (fun c => (filterTest_failsWith c).bind fun _ => .ok _) _
  rcases bind_eq_error_iff.mp h with h | ⟨ts, -, h⟩
  · exact Or.inl (hf e h)
  · simp only [check_eq_error_iff, pure_ne_error, and_false, or_false] at h
    exact Or.inr h.2

/-- What is rejected for anything but its form is a well-formed write. -/
theorem ofQuery_eq_error {d : Dialect} {q : Query} {e : Rejection} (h : ofQuery d q = .error e) :
    e.IsMalformed ∨ e = .unfilteredWrite q.kind ∧ q.IsWellFormed d := by
  have hw := checkSingleTable_failsWith q e
  rw [ofQuery] at h
  rw [Query.IsWellFormed]
  cases hk : q.kind with
  | select =>
    rw [hk] at h
    simp only [bind_eq_error_iff, pure_ne_error, and_false, exists_false, or_false] at h
    exact Or.inl (ofSelect_failsWith d q e h)
  | insert =>
    rw [hk] at h
    simp only [bind_eq_error_iff, check_eq_error_iff, pure_ne_error, and_false, or_false] at h
    rcases h with h | ⟨_, -, ⟨-, rfl⟩ | ⟨-, -, rfl⟩⟩
    · exact Or.inl (hw h)
    · exact Or.inl ⟨_, rfl⟩
    · exact Or.inl ⟨_, rfl⟩
  | update =>
    rw [hk] at h
    simp only [bind_eq_error_iff, check_eq_error_iff, pure_ne_error, and_false, exists_false,
      or_false] at h
    rcases h with h | ⟨_, hs, ⟨-, rfl⟩ | ⟨hc, h⟩⟩
    · exact Or.inl (hw h)
    · exact Or.inl ⟨_, rfl⟩
    · rw [List.isEmpty_iff] at hc
      refine (writeFilters_eq_error h).imp_right fun h => ⟨hk ▸ h, ?_, hc⟩
      exact Query.isSingle_iff.mp (checkSingleTable_eq_ok_iff.mp hs)
  | delete =>
    rw [hk] at h
    simp only [bind_eq_error_iff, check_eq_error_iff, pure_ne_error, and_false, exists_false,
      or_false] at h
    rcases h with h | ⟨_, hs, ⟨-, rfl⟩ | ⟨hc, h⟩⟩
    · exact Or.inl (hw h)
    · exact Or.inl ⟨_, rfl⟩
    · have hc : q.columns = [] := by simpa using hc
      refine (writeFilters_eq_error h).imp_right fun h => ⟨hk ▸ h, ?_, hc⟩
      exact Query.isSingle_iff.mp (checkSingleTable_eq_ok_iff.mp hs)

theorem writeFilters_of_not_isGuarded {q : Query} (h : ∀ c ∈ q.filters, c.aggregate = none)
    (hg : ¬ q.IsGuarded) : writeFilters q = .error (.unfilteredWrite q.kind) := by
  have hf := (mapM_eq_ok_iff bindWriteFilter_eq_ok_iff).mpr ⟨h, rfl⟩
  have hw : (q.filters.map fun c => c.test?.map fun t => (c.name, t)).filterMap id =
      q.writeTests := List.filterMap_map ..
  show (q.filters.mapM bindWriteFilter >>= _) = _
  simp only [bind_eq_error_iff, check_eq_error_iff]
  refine Or.inr ⟨_, hf, Or.inl ⟨?_, trivial⟩⟩
  rw [hw]
  exact not_not.mp (isGuarded_iff.not.mp hg)

/-- A well-formed query that is not safe has nothing else wrong with it. -/
theorem ofQuery_of_not_isSafe {d : Dialect} {q : Query} (h : q.IsWellFormed d)
    (hs : ¬ q.IsSafe) : ofQuery d q = .error (.unfilteredWrite q.kind) := by
  have hk : q.kind = .update ∨ q.kind = .delete := Classical.not_not.mp fun hk =>
    hs fun hk' => absurd hk' hk
  have hg : ¬ q.IsGuarded := (Query.isSafe_iff hk).not.mp hs
  have hf (hw : q.IsWritable) : writeFilters q = .error (.unfilteredWrite q.kind) :=
    writeFilters_of_not_isGuarded (fun c hc => hw.plain c (List.mem_append_right _ hc)) hg
  have hc (hw : q.IsWritable) : checkSingleTable q = .ok () :=
    checkSingleTable_eq_ok_iff.mpr (Query.isSingle_iff.mpr hw)
  rw [ofQuery]
  rcases hk with hk | hk
  · rw [Query.IsWellFormed, hk] at h
    simp only [hk, bind_eq_error_iff, check_eq_error_iff, List.isEmpty_iff]
    exact Or.inr ⟨(), hc h.1, Or.inr ⟨h.2, Or.inl (hk ▸ hf h.1)⟩⟩
  · rw [Query.IsWellFormed, hk] at h
    simp only [hk, bind_eq_error_iff, check_eq_error_iff]
    exact Or.inr ⟨(), hc h.1, Or.inr ⟨by simp [h.2], Or.inl (hk ▸ hf h.1)⟩⟩

end Plan

namespace Query

theorem exists_compile_eq_ok_iff {d : Dialect} {q : Query} :
    (∃ s, q.compile d = .ok s) ↔ q.IsWellFormed d ∧ q.IsSafe := by
  simp only [compile_eq_ok_iff, isSound_iff]
  exact ⟨fun ⟨_, h, _⟩ => h, fun h => ⟨_, h, rfl⟩⟩

theorem compile_eq_error_iff {d : Dialect} {q : Query} {e : Rejection} :
    q.compile d = .error e ↔ Plan.ofQuery d q = .error e := by
  rw [compile]
  cases Plan.ofQuery d q <;> simp [Except.map]

theorem answer_eq_error_iff {d : Dialect} {q : Query} {f : Failure} :
    q.answer d = .error f ↔ ∃ e, q.compile d = .error e ∧ Failure.ofRejection e = f := by
  rw [answer]
  cases q.compile d <;> simp [Except.mapError]

/-- A query has a statement exactly if it is well-formed and safe. It is blocked as dangerous exactly
    if safety is all that it lacks, and in every other case it fails to compile. -/
theorem answers_by_form (d : Dialect) (q : Query) :
    ((∃ s, q.answer d = .ok s) ↔ q.IsWellFormed d ∧ q.IsSafe) ∧
    ((∃ operation reason, q.answer d = .error (.dangerousBlocked operation reason)) ↔
      q.IsWellFormed d ∧ ¬ q.IsSafe) ∧
    ((∃ message, q.answer d = .error (.compileFailed message)) ↔ ¬ q.IsWellFormed d) := by
  have hok : (∃ s, q.answer d = .ok s) ↔ q.IsWellFormed d ∧ q.IsSafe := by
    rw [← exists_compile_eq_ok_iff, answer]
    cases q.compile d <;> simp [Except.mapError]
  have herr {e : Rejection} (h : q.compile d = .error e) : ¬ (q.IsWellFormed d ∧ q.IsSafe) := by
    rw [← exists_compile_eq_ok_iff, h]
    simp
  -- without safety the rejection is known, and without form it is one of the others
  have hblocked (h : q.IsWellFormed d) (hs : ¬ q.IsSafe) :
      q.compile d = .error (.unfilteredWrite q.kind) :=
    compile_eq_error_iff.mpr (Plan.ofQuery_of_not_isSafe h hs)
  have hmalformed (h : ¬ q.IsWellFormed d) : ∃ e, q.compile d = .error e ∧ e.IsMalformed := by
    cases hc : q.compile d with
    | ok s => exact absurd (exists_compile_eq_ok_iff.mp ⟨s, hc⟩).1 h
    | error e =>
      have he := Plan.ofQuery_eq_error (compile_eq_error_iff.mp hc)
      exact ⟨e, rfl, he.resolve_right fun hw => h hw.2⟩
  refine ⟨hok, ?_, ?_⟩
  · constructor
    · rintro ⟨operation, reason, h⟩
      obtain ⟨e, hc, he⟩ := answer_eq_error_iff.mp h
      have hw : q.IsWellFormed d := by
        by_contra hw
        obtain ⟨e', hc', message, he'⟩ := hmalformed hw
        obtain rfl := Except.error.inj (hc.symm.trans hc')
        exact nomatch he.symm.trans he'
      exact ⟨hw, fun hs => herr hc ⟨hw, hs⟩⟩
    · rintro ⟨hw, hs⟩
      exact ⟨_, _, answer_eq_error_iff.mpr ⟨_, hblocked hw hs, rfl⟩⟩
  · constructor
    · rintro ⟨message, h⟩ hw
      obtain ⟨e, hc, he⟩ := answer_eq_error_iff.mp h
      have hs : ¬ q.IsSafe := fun hs => herr hc ⟨hw, hs⟩
      obtain rfl := Except.error.inj (hc.symm.trans (hblocked hw hs))
      exact nomatch he
    · intro hw
      obtain ⟨e, hc, message, he⟩ := hmalformed hw
      exact ⟨message, answer_eq_error_iff.mpr ⟨e, hc, he⟩⟩

end Query

end SqlGateway
