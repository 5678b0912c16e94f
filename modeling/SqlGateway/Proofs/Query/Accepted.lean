import SqlGateway.Proofs.Query.LevelOrder
import SqlGateway.Query.Compile

/-! Which queries are accepted, and with which plan. Apart from the checks, the plan of a query is a
    plain function of it:

        columns ─▶ projections      joins in level order ─▶ clauses      where entries ─▶ tests
        order   ─▶ sort keys        columns of a write   ─▶ cells

    so a query is accepted exactly if it is sound, and its plan is then the one of that function. -/

namespace SqlGateway

/-! ### Results of checks -/

section Except

variable {ε α β : Type}

theorem bind_eq_ok_iff {x : Except ε α} {f : α → Except ε β} {b : β} :
    (x >>= f) = .ok b ↔ ∃ a, x = .ok a ∧ f a = .ok b := by
  cases x with
  | error e => simp [bind, Except.bind]
  | ok a => simp [bind, Except.bind]

theorem bind_unit_eq_ok_iff {x : Except ε Unit} {f : Unit → Except ε β} {b : β} :
    (x >>= f) = .ok b ↔ x = .ok () ∧ f () = .ok b := by
  rw [bind_eq_ok_iff]
  exact ⟨fun ⟨(), h⟩ => h, fun h => ⟨(), h⟩⟩

theorem pure_eq_ok_iff {a b : α} : (pure a : Except ε α) = .ok b ↔ b = a := by
  simp [pure, Except.pure, eq_comm]

/-- A check that throws is passed if its condition is false. -/
theorem unless_eq_ok_iff {c : Prop} [Decidable c] {e : ε} {x : Except ε β} {y : α → Except ε β}
    {b : β} : (if c then (throw e : Except ε α) >>= y else x) = .ok b ↔ ¬ c ∧ x = .ok b := by
  by_cases h : c
  · simp [h, throw, throwThe, MonadExceptOf.throw, bind, Except.bind]
  · simp [h]

/-- A list is worked through if each of its elements is. -/
theorem mapM_eq_ok_iff {f : α → Except ε β} {P : α → Prop} {g : α → β}
    (h : ∀ a b, f a = .ok b ↔ P a ∧ b = g a) {as : List α} {bs : List β} :
    as.mapM f = .ok bs ↔ (∀ a ∈ as, P a) ∧ bs = as.map g := by
  induction as generalizing bs with
  | nil => simp [pure, Except.pure, eq_comm]
  | cons a as ih =>
    simp only [List.mapM_cons, bind_eq_ok_iff, h, ih, pure_eq_ok_iff, List.forall_mem_cons,
      List.map_cons]
    constructor
    · rintro ⟨b, ⟨hp, rfl⟩, cs, ⟨hps, rfl⟩, rfl⟩
      exact ⟨⟨hp, hps⟩, rfl⟩
    · rintro ⟨⟨hp, hps⟩, rfl⟩
      exact ⟨_, ⟨hp, rfl⟩, _, ⟨hps, rfl⟩, rfl⟩

theorem forM_eq_ok_iff {f : α → Except ε Unit} {P : α → Prop} (h : ∀ a, f a = .ok () ↔ P a)
    {as : List α} : as.forM f = .ok () ↔ ∀ a ∈ as, P a := by
  induction as with
  | nil => simp [pure, Except.pure]
  | cons a as ih =>
    rw [List.forM_eq_forM, List.forM_cons, bind_unit_eq_ok_iff, List.forall_mem_cons, ← h a, ← ih,
      List.forM_eq_forM]

end Except

/-! ### The plan of a query without its checks -/

namespace ColumnRef

def target (c : ColumnRef) (root : TableKey) : Qualified := ⟨c.tableAlias root, c.name⟩

def expression (c : ColumnRef) (root : TableKey) : Expression := ⟨c.target root, c.aggregate⟩

def projection (c : ColumnRef) (root : TableKey) : Projection := ⟨c.expression root, c.label root⟩

def sortKey (c : ColumnRef) (root : TableKey) : SortKey := ⟨c.expression root, c.descending⟩

/-- What a where entry asks, if it has a value. -/
def test? (c : ColumnRef) : Option Test := c.value.map Test.ofValue

end ColumnRef

def Condition.joinTest (c : Condition) (root : TableKey) : JoinTest :=
  ⟨c.left.target root, c.comparison, c.right.target root⟩

def Join.clause (j : Join) (root : TableKey) : JoinClause :=
  ⟨j.kind, j.table.name, j.table.aliasName, j.conditions.map (·.joinTest root)⟩

namespace Query

/-- The tests of the where entries that have a value. -/
def tests (q : Query) : List (Qualified × Test) :=
  q.filters.filterMap fun c => c.test?.map fun t => (c.target q.root, t)

/-- The tests of a write, whose columns stand without the table. -/
def writeTests (q : Query) : List (String × Test) :=
  q.filters.filterMap fun c => c.test?.map fun t => (c.name, t)

def selectPlan (q : Query) : SelectPlan :=
  let projections := q.columns.map (·.projection q.root)
  { table := q.table.name
    aliasName := q.table.aliasName
    joins := q.table.levelOrder.map (·.clause q.root)
    projections := projections
    filters := q.tests
    groupKeys := Plan.groupKeys projections
    sortKeys := q.orderBy.map (·.sortKey q.root)
    limit := q.limit
    offset := q.offset }

/-- The plan that a query has if it is accepted. -/
def plan (q : Query) : Plan :=
  match q.kind with
  | .select => .select q.selectPlan
  | .insert => .insert q.table.name (Plan.cells q.columns)
  | .update => .update q.table.name (Plan.cells q.columns) q.writeTests
  | .delete => .delete q.table.name q.writeTests

/-! ### Sound queries -/

/-- A column of a table of the tree. -/
def Resolves (q : Query) (c : ColumnRef) : Prop := c.tableAlias q.root ∈ q.table.aliases

/-- A condition between plain columns of the tree. -/
def Joins (q : Query) (c : Condition) : Prop :=
  (c.left.aggregate = none ∧ c.right.aggregate = none) ∧ q.Resolves c.left ∧ q.Resolves c.right

/-- A query that reads and may be run. -/
structure IsSoundSelect (d : Dialect) (q : Query) : Prop where
  columns_ne : q.columns ≠ []
  aliases_nodup : q.table.aliases.Nodup
  columns : ∀ c ∈ q.columns, q.Resolves c ∧
    ∀ n ∈ d.maxIdentifierLength, (c.label q.root).utf8ByteSize ≤ n
  joins : ∀ j ∈ q.table.levelOrder, j.conditions ≠ [] ∧ ∀ c ∈ j.conditions, q.Joins c
  filters : ∀ c ∈ q.filters, q.Resolves c ∧ c.aggregate = none
  orderBy : ∀ c ∈ q.orderBy, q.Resolves c

/-- A write of one table, without order or window. -/
structure IsSingle (q : Query) : Prop where
  joins_eq : q.table.joins = []
  order_eq : (q.orderBy = [] ∧ q.limit = none) ∧ q.offset = none
  columns : ∀ c ∈ q.columns ++ q.filters,
    c.aggregate = none ∧ c.tableAlias q.root = q.table.aliasName

/-- Has the write a condition, or may it go without? -/
def IsGuarded (q : Query) : Prop := q.allowUnfiltered = true ∨ ∃ c ∈ q.filters, c.value ≠ none

/-- A query that may be run. -/
def IsSound (d : Dialect) (q : Query) : Prop :=
  match q.kind with
  | .select => q.IsSoundSelect d
  | .insert => q.IsSingle ∧ q.columns ≠ [] ∧ q.filters = []
  | .update => q.IsSingle ∧ q.columns ≠ [] ∧ q.IsGuarded
  | .delete => q.IsSingle ∧ q.columns = [] ∧ q.IsGuarded

end Query

/-! ### Each check -/

namespace Plan

/-- The join plan of the tree of a query. -/
def joinsOf (q : Query) : JoinPlan := ⟨q.table.levelOrder, q.table.aliases⟩

variable {q : Query}

theorem resolve_eq_ok_iff (c : ColumnRef) (a : String) :
    (joinsOf q).resolve q.root c = .ok a ↔ q.Resolves c ∧ a = c.tableAlias q.root := by
  rw [JoinPlan.resolve, joinsOf]
  by_cases h : c.tableAlias q.root ∈ q.table.aliases
  · simp [h, Query.Resolves, eq_comm]
  · simp [h, Query.Resolves]

theorem project_eq_ok_iff (limit : Option Nat) (c : ColumnRef) (p : Projection) :
    project (joinsOf q) q.root limit c = .ok p ↔
      (q.Resolves c ∧ ∀ n ∈ limit, (c.label q.root).utf8ByteSize ≤ n) ∧
        p = c.projection q.root := by
  have hl : (¬ limit.any (fun n => decide (n < (c.label q.root).utf8ByteSize)) = true) ↔
      ∀ n ∈ limit, (c.label q.root).utf8ByteSize ≤ n := by
    cases limit <;> simp
  simp only [project, bind_eq_ok_iff, unless_eq_ok_iff, pure_eq_ok_iff, resolve_eq_ok_iff, hl]
  constructor
  · rintro ⟨a, ⟨hr, rfl⟩, hn, rfl⟩
    exact ⟨⟨hr, hn⟩, rfl⟩
  · rintro ⟨⟨hr, hn⟩, rfl⟩
    exact ⟨_, ⟨hr, rfl⟩, hn, rfl⟩

theorem bindTest_eq_ok_iff (c : Condition) (t : JoinTest) :
    bindTest (joinsOf q) q.root c = .ok t ↔ q.Joins c ∧ t = c.joinTest q.root := by
  have ha : (¬ (c.left.aggregate.isSome || c.right.aggregate.isSome) = true) ↔
      c.left.aggregate = none ∧ c.right.aggregate = none := by simp
  simp only [bindTest, bind_eq_ok_iff, unless_eq_ok_iff, pure_eq_ok_iff, resolve_eq_ok_iff, ha]
  constructor
  · rintro ⟨hn, a, ⟨hl, rfl⟩, b, ⟨hr, rfl⟩, rfl⟩
    exact ⟨⟨hn, hl, hr⟩, rfl⟩
  · rintro ⟨⟨hn, hl, hr⟩, rfl⟩
    exact ⟨hn, _, ⟨hl, rfl⟩, _, ⟨hr, rfl⟩, rfl⟩

theorem bindJoin_eq_ok_iff (j : Join) (c : JoinClause) :
    bindJoin (joinsOf q) q.root j = .ok c ↔
      (j.conditions ≠ [] ∧ ∀ c ∈ j.conditions, q.Joins c) ∧ c = j.clause q.root := by
  simp only [bindJoin, bind_eq_ok_iff, unless_eq_ok_iff, pure_eq_ok_iff,
    mapM_eq_ok_iff bindTest_eq_ok_iff, List.isEmpty_iff]
  constructor
  · rintro ⟨hn, ts, ⟨ht, rfl⟩, rfl⟩
    exact ⟨⟨hn, ht⟩, rfl⟩
  · rintro ⟨⟨hn, ht⟩, rfl⟩
    exact ⟨hn, _, ⟨ht, rfl⟩, rfl⟩

theorem filterTest_eq_ok_iff (c : ColumnRef) (t : Option Test) :
    filterTest c = .ok t ↔ c.aggregate = none ∧ t = c.test? := by
  rw [filterTest, ColumnRef.test?]
  cases c.aggregate <;> simp [eq_comm]

theorem bindFilter_eq_ok_iff (c : ColumnRef) (t : Option (Qualified × Test)) :
    bindFilter (joinsOf q) q.root c = .ok t ↔ (q.Resolves c ∧ c.aggregate = none) ∧
      t = c.test?.map fun t => (c.target q.root, t) := by
  simp only [bindFilter, bind_eq_ok_iff, pure_eq_ok_iff, resolve_eq_ok_iff, filterTest_eq_ok_iff]
  constructor
  · rintro ⟨a, ⟨hr, rfl⟩, t, ⟨ha, rfl⟩, rfl⟩
    exact ⟨⟨hr, ha⟩, rfl⟩
  · rintro ⟨⟨hr, ha⟩, rfl⟩
    exact ⟨_, ⟨hr, rfl⟩, _, ⟨ha, rfl⟩, rfl⟩

theorem bindSort_eq_ok_iff (c : ColumnRef) (k : SortKey) :
    bindSort (joinsOf q) q.root c = .ok k ↔ q.Resolves c ∧ k = c.sortKey q.root := by
  simp only [bindSort, bind_eq_ok_iff, pure_eq_ok_iff, resolve_eq_ok_iff]
  constructor
  · rintro ⟨a, ⟨hr, rfl⟩, rfl⟩
    exact ⟨hr, rfl⟩
  · rintro ⟨hr, rfl⟩
    exact ⟨_, ⟨hr, rfl⟩, rfl⟩

theorem ofSelect_eq_ok_iff (d : Dialect) (p : SelectPlan) :
    ofSelect d q = .ok p ↔ q.IsSoundSelect d ∧ p = q.selectPlan := by
  simp only [ofSelect, bind_eq_ok_iff, unless_eq_ok_iff, pure_eq_ok_iff,
    JoinPlan.ofTree_eq_ok_iff, List.isEmpty_iff]
  constructor
  · rintro ⟨hc, joins, ⟨hn, rfl⟩, ps, hps, js, hjs, fs, hfs, ks, hks, rfl⟩
    obtain ⟨hp, rfl⟩ := (mapM_eq_ok_iff (project_eq_ok_iff _)).mp hps
    obtain ⟨hj, rfl⟩ := (mapM_eq_ok_iff bindJoin_eq_ok_iff).mp hjs
    obtain ⟨hf, rfl⟩ := (mapM_eq_ok_iff bindFilter_eq_ok_iff).mp hfs
    obtain ⟨hk, rfl⟩ := (mapM_eq_ok_iff bindSort_eq_ok_iff).mp hks
    refine ⟨⟨hc, hn, hp, hj, hf, hk⟩, ?_⟩
    rw [List.filterMap_map]
    rfl
  · rintro ⟨⟨hc, hn, hp, hj, hf, hk⟩, rfl⟩
    refine ⟨hc, _, ⟨hn, rfl⟩, _, (mapM_eq_ok_iff (project_eq_ok_iff _)).mpr ⟨hp, rfl⟩,
      _, (mapM_eq_ok_iff bindJoin_eq_ok_iff).mpr ⟨hj, rfl⟩,
      _, (mapM_eq_ok_iff bindFilter_eq_ok_iff).mpr ⟨hf, rfl⟩,
      _, (mapM_eq_ok_iff bindSort_eq_ok_iff).mpr ⟨hk, rfl⟩, ?_⟩
    rw [List.filterMap_map]
    rfl

theorem checkWritten_eq_ok_iff (c : ColumnRef) :
    checkWritten q c = .ok () ↔
      c.aggregate = none ∧ c.tableAlias q.root = q.table.aliasName := by
  rw [checkWritten]
  by_cases ha : c.aggregate = none
  · by_cases ht : c.tableAlias q.root = q.table.aliasName <;> simp [ha, ht]
  · simp [ha, Option.isSome_iff_ne_none]

theorem checkSingleTable_eq_ok_iff : checkSingleTable q = .ok () ↔ q.IsSingle := by
  have hj : (¬ (!q.table.joins.isEmpty) = true) ↔ q.table.joins = [] := by simp
  have ho : (¬ (!q.orderBy.isEmpty || q.limit.isSome || q.offset.isSome) = true) ↔
      (q.orderBy = [] ∧ q.limit = none) ∧ q.offset = none := by simp
  simp only [checkSingleTable, unless_eq_ok_iff, forM_eq_ok_iff checkWritten_eq_ok_iff, hj, ho]
  constructor
  · rintro ⟨hj, ho, hc⟩
    exact ⟨hj, ho, hc⟩
  · rintro ⟨hj, ho, hc⟩
    exact ⟨hj, ho, hc⟩

theorem isGuarded_iff :
    q.IsGuarded ↔ ¬ (q.writeTests.isEmpty && !q.allowUnfiltered) = true := by
  have he : q.writeTests = [] ↔ ∀ c ∈ q.filters, c.value = none := by
    simp [Query.writeTests, ColumnRef.test?]
  rw [Query.IsGuarded, Bool.and_eq_true, List.isEmpty_iff, he]
  cases q.allowUnfiltered <;> simp

/-- Bind a filter of a write. -/
def bindWriteFilter (c : ColumnRef) : Except Rejection (Option (String × Test)) := do
  return (← filterTest c).map fun test => (c.name, test)

theorem bindWriteFilter_eq_ok_iff (c : ColumnRef) (t : Option (String × Test)) :
    bindWriteFilter c = .ok t ↔
      c.aggregate = none ∧ t = c.test?.map fun t => (c.name, t) := by
  simp only [bindWriteFilter, bind_eq_ok_iff, pure_eq_ok_iff, filterTest_eq_ok_iff]
  constructor
  · rintro ⟨_, ⟨ha, rfl⟩, ht⟩
    exact ⟨ha, ht⟩
  · rintro ⟨ha, ht⟩
    exact ⟨_, ⟨ha, rfl⟩, ht⟩

theorem writeFilters_eq_ok_iff (ts : List (String × Test)) :
    writeFilters q = .ok ts ↔
      (∀ c ∈ q.filters, c.aggregate = none) ∧ q.IsGuarded ∧ ts = q.writeTests := by
  show (q.filters.mapM bindWriteFilter >>= _) = .ok ts ↔ _
  simp only [bind_eq_ok_iff, unless_eq_ok_iff, pure_eq_ok_iff,
    mapM_eq_ok_iff bindWriteFilter_eq_ok_iff]
  have hw : (q.filters.map fun c => c.test?.map fun t => (c.name, t)).filterMap id =
      q.writeTests := List.filterMap_map ..
  constructor
  · rintro ⟨os, ⟨ha, rfl⟩, hg, rfl⟩
    rw [hw] at hg ⊢
    exact ⟨ha, isGuarded_iff.mpr hg, rfl⟩
  · rintro ⟨ha, hg, rfl⟩
    exact ⟨_, ⟨ha, rfl⟩, by rw [hw]; exact isGuarded_iff.mp hg, hw.symm⟩

/-- A query is accepted exactly if it is sound, and then with its plan. -/
theorem ofQuery_eq_ok_iff (d : Dialect) (p : Plan) :
    ofQuery d q = .ok p ↔ q.IsSound d ∧ p = q.plan := by
  have hf (h : q.IsSingle) : ∀ c ∈ q.filters, c.aggregate = none := by
    intro c hc
    exact (h.columns c (List.mem_append_right _ hc)).1
  rw [ofQuery, Query.IsSound, Query.plan]
  cases q.kind with
  | select =>
    simp only [bind_eq_ok_iff, pure_eq_ok_iff, ofSelect_eq_ok_iff]
    constructor
    · rintro ⟨_, ⟨h, rfl⟩, hp⟩
      exact ⟨h, hp⟩
    · rintro ⟨h, hp⟩
      exact ⟨_, ⟨h, rfl⟩, hp⟩
  | insert =>
    have hn : ¬ (!q.filters.isEmpty) = true ↔ q.filters = [] := by simp
    simp only [bind_unit_eq_ok_iff, unless_eq_ok_iff, pure_eq_ok_iff, checkSingleTable_eq_ok_iff,
      List.isEmpty_iff, hn]
    constructor
    · rintro ⟨h, hc, hf, hp⟩
      exact ⟨⟨h, hc, hf⟩, hp⟩
    · rintro ⟨⟨h, hc, hf⟩, hp⟩
      exact ⟨h, hc, hf, hp⟩
  | update =>
    simp only [bind_unit_eq_ok_iff, unless_eq_ok_iff, checkSingleTable_eq_ok_iff, List.isEmpty_iff]
    simp only [bind_eq_ok_iff, pure_eq_ok_iff, writeFilters_eq_ok_iff]
    constructor
    · rintro ⟨h, hc, ts, ⟨-, hg, rfl⟩, rfl⟩
      exact ⟨⟨h, hc, hg⟩, rfl⟩
    · rintro ⟨⟨h, hc, hg⟩, rfl⟩
      exact ⟨h, hc, _, ⟨hf h, hg, rfl⟩, rfl⟩
  | delete =>
    have hn : ¬ (!q.columns.isEmpty) = true ↔ q.columns = [] := by simp
    simp only [bind_unit_eq_ok_iff, unless_eq_ok_iff, checkSingleTable_eq_ok_iff, hn]
    simp only [bind_eq_ok_iff, pure_eq_ok_iff, writeFilters_eq_ok_iff]
    constructor
    · rintro ⟨h, hc, ts, ⟨-, hg, rfl⟩, rfl⟩
      exact ⟨⟨h, hc, hg⟩, rfl⟩
    · rintro ⟨⟨h, hc, hg⟩, rfl⟩
      exact ⟨h, hc, _, ⟨hf h, hg, rfl⟩, rfl⟩

end Plan

/-- A query has a statement exactly if it is sound, and then that of its plan. -/
theorem Query.compile_eq_ok_iff {d : Dialect} {q : Query} {s : Statement} :
    q.compile d = .ok s ↔ q.IsSound d ∧ s = q.plan.statement d := by
  rw [Query.compile]
  constructor
  · intro h
    cases ho : Plan.ofQuery d q with
    | error e => simp [ho, Except.map] at h
    | ok p =>
      obtain ⟨hs, rfl⟩ := (Plan.ofQuery_eq_ok_iff d p).mp ho
      simp only [ho, Except.map, Except.ok.injEq] at h
      exact ⟨hs, h.symm⟩
  · rintro ⟨hs, rfl⟩
    rw [(Plan.ofQuery_eq_ok_iff d _).mpr ⟨hs, rfl⟩]
    rfl

end SqlGateway
