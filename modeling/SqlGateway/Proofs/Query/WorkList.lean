import SqlGateway.Proofs.Query.Clauses
import SqlGateway.Proofs.Query.WellFormed

/-! The join plan as a loop over a list that grows while a cursor moves along it:

        next   0         1               2
        work   a         a b c           a b c d
        joins            b c             b c d

    What is left of the cursor has been visited, and what is not is the queue of the plan. The loop
    ends after one step for every table of the tree, and the tables that it has visited by then are
    declared in the statement in the order of their visits. -/

namespace SqlGateway

open Statement
open scoped List

/-- The tables found so far, and the place of the one that is visited next. -/
structure WorkList where
  work : List JoinTree
  next : Nat
  plan : JoinPlan

namespace WorkList

open JoinTree (size size_append tableCount_eq)

/-- Before the first visit the list holds the root alone. -/
def start (root : JoinTree) : WorkList := ⟨[root], 0, ⟨[], [root.aliasName]⟩⟩

/-- Has every table been visited? -/
def IsDone (w : WorkList) : Prop := w.work[w.next]? = none

/-- The tables left of the cursor. -/
def visited (w : WorkList) : List JoinTree := w.work.take w.next

/-- Visit the table at the cursor: its joins go to the plan, and their tables to the list. -/
def step (w : WorkList) : Except Rejection WorkList :=
  match w.work[w.next]? with
  | none => .ok w
  | some table =>
    (JoinPlan.enter w.plan.aliases table.joins).map fun aliases =>
      ⟨w.work ++ table.children, w.next + 1, ⟨w.plan.joins ++ table.joins, aliases⟩⟩

/-- Several steps. -/
def run : Nat → WorkList → Except Rejection WorkList
  | 0, w => .ok w
  | n + 1, w => w.step >>= run n

variable {root table : JoinTree} {w w' : WorkList} {n : Nat}

/-- What a step does: nothing at the end, else it visits one table. -/
theorem step_cases (h : w.step = .ok w') :
    (w.IsDone ∧ w' = w) ∨
    (∃ table aliases, w.work[w.next]? = some table ∧
      JoinPlan.enter w.plan.aliases table.joins = .ok aliases ∧
      w' = ⟨w.work ++ table.children, w.next + 1, ⟨w.plan.joins ++ table.joins, aliases⟩⟩) := by
  rw [step] at h
  cases ht : w.work[w.next]? with
  | none =>
    rw [ht] at h
    exact Or.inl ⟨ht, (Except.ok.inj h).symm⟩
  | some table =>
    rw [ht] at h
    cases he : JoinPlan.enter w.plan.aliases table.joins with
    | error e => simp [he, Except.map] at h
    | ok aliases =>
      simp only [he, Except.map, Except.ok.injEq] at h
      exact Or.inr ⟨table, aliases, rfl, he, h.symm⟩

theorem step_of_isDone (h : w.IsDone) : w.step = .ok w := by
  rw [step, h]

theorem run_of_isDone (h : w.IsDone) (n : Nat) : run n w = .ok w := by
  induction n with
  | zero => rfl
  | succ n ih => rw [run, step_of_isDone h]; exact ih

theorem run_add (n m : Nat) (w : WorkList) : run (n + m) w = run n w >>= run m := by
  induction n generalizing w with
  | zero => rw [Nat.zero_add]; rfl
  | succ n ih =>
    rw [Nat.add_right_comm, run, run]
    cases w.step with
    | error e => rfl
    | ok w => exact ih w

/-- The queue is what stands from the cursor on. -/
theorem drop_next (h : w.work[w.next]? = some table) :
    w.work.drop w.next = table :: w.work.drop (w.next + 1) := by
  obtain ⟨hl, rfl⟩ := List.getElem?_eq_some_iff.mp h
  exact List.drop_eq_getElem_cons hl

/-- The loop works the queue off. -/
theorem run_eq_walk (n : Nat) (w : WorkList) :
    (run n w).map plan = JoinPlan.walk n (w.work.drop w.next) w.plan := by
  induction n generalizing w with
  | zero => rfl
  | succ n ih =>
    cases ht : w.work[w.next]? with
    | none =>
      have hd : w.work.drop w.next = [] :=
        List.drop_eq_nil_iff.mpr (List.getElem?_eq_none_iff.mp ht)
      rw [run_of_isDone ht, hd, JoinPlan.walk.eq_def]
      rfl
    | some table =>
      have hl : w.next + 1 ≤ w.work.length := (List.getElem?_eq_some_iff.mp ht).1
      rw [drop_next ht, JoinPlan.walk, run, step]
      simp only [ht]
      cases JoinPlan.enter w.plan.aliases table.joins with
      | error e => rfl
      | ok aliases =>
        refine (ih _).trans ?_
        rw [List.drop_append_of_le_length hl]
        rfl

/-- What every step keeps: the list is the root and the tables of the joins, and the tables below the
    queue are those that have not been visited. -/
structure Invariant (root : JoinTree) (w : WorkList) : Prop where
  work_eq : w.work = root :: w.plan.joins.map Join.table
  next_le : w.next ≤ w.work.length
  size_eq : size (w.work.drop w.next) + w.next = root.tableCount

theorem invariant_start (root : JoinTree) : Invariant root (start root) :=
  ⟨rfl, Nat.zero_le _, by simp [start, size]⟩

theorem Invariant.isDone_iff (h : Invariant root w) : w.IsDone ↔ w.next = root.tableCount := by
  have hs := h.size_eq
  have hpos (t : JoinTree) : 0 < t.tableCount := by
    have := tableCount_eq t
    omega
  constructor
  · intro hd
    rw [List.drop_eq_nil_iff.mpr (List.getElem?_eq_none_iff.mp hd), size] at hs
    omega
  · intro hn
    cases hd : w.work.drop w.next with
    | nil => exact List.getElem?_eq_none_iff.mpr (List.drop_eq_nil_iff.mp hd)
    | cons t ts =>
      have ht := hpos t
      rw [hd, size] at hs
      omega

/-- A step keeps the invariant and moves the cursor on, up to the number of tables. -/
theorem Invariant.step (hi : Invariant root w) (h : w.step = .ok w') :
    Invariant root w' ∧ w'.next = min (w.next + 1) root.tableCount := by
  rcases step_cases h with ⟨hd, rfl⟩ | ⟨table, aliases, ht, -, rfl⟩
  · have hn := hi.isDone_iff.mp hd
    exact ⟨hi, by omega⟩
  · have hl : w.next + 1 ≤ w.work.length := (List.getElem?_eq_some_iff.mp ht).1
    have hc := tableCount_eq table
    have hs := hi.size_eq
    rw [drop_next ht, size] at hs
    refine ⟨⟨?_, ?_, ?_⟩, ?_⟩
    · simp [hi.work_eq, JoinTree.children]
    · simp only [List.length_append]
      omega
    · simp only [List.drop_append_of_le_length hl, size_append]
      omega
    · simp only
      omega

theorem Invariant.run (hi : Invariant root w) (hn : w.next ≤ root.tableCount)
    (h : run n w = .ok w') :
    Invariant root w' ∧ w'.next = min (w.next + n) root.tableCount := by
  induction n generalizing w with
  | zero =>
    obtain rfl := Except.ok.inj h
    exact ⟨hi, by omega⟩
  | succ n ih =>
    obtain ⟨v, hv, hr⟩ := bind_eq_ok_iff.mp h
    obtain ⟨hiv, hnv⟩ := hi.step hv
    obtain ⟨hi', hn'⟩ := ih hiv (by omega) hr
    exact ⟨hi', by omega⟩

/-- After as many steps the cursor stands before as many tables, but not beyond the last one. -/
theorem run_start (h : run n (start root) = .ok w) :
    Invariant root w ∧ w.next = min n root.tableCount := by
  obtain ⟨hi, hn⟩ := (invariant_start root).run (Nat.zero_le _) h
  exact ⟨hi, by rw [hn, start, Nat.zero_add]⟩

/-- Where the walk of a tree comes to a plan, the loop ends with it after one step for every table. -/
theorem exists_run_of_ofTree {p : JoinPlan} (h : JoinPlan.ofTree root = .ok p) :
    ∃ w, run root.tableCount (start root) = .ok w ∧ w.IsDone ∧ w.plan = p := by
  have hw : (run root.tableCount (start root)).map plan = .ok p :=
    (run_eq_walk root.tableCount (start root)).trans h
  cases hr : run root.tableCount (start root) with
  | error e => simp [hr, Except.map] at hw
  | ok w =>
    obtain ⟨hi, hn⟩ := run_start hr
    exact ⟨w, rfl, hi.isDone_iff.mpr (by omega), by simpa [hr, Except.map] using hw⟩

end WorkList

/-! ### Declarations -/

/-- The two sides of a condition with its operator between them. -/
def Condition.parts (c : Condition) (root : TableKey) : List Part :=
  [.identifier (c.left.tableAlias root), .mark ".", .identifier c.left.name,
    .mark c.comparison.symbol,
    .identifier (c.right.tableAlias root), .mark ".", .identifier c.right.name]

/-- The clause that declares the table of a join. -/
def Join.declaration (j : Join) (root : TableKey) : Clause :=
  ⟨j.kind.keyword, [.identifier j.table.name, .identifier j.table.aliasName, .word "ON"] ++
    [.word "AND"].intercalate (j.conditions.map (·.parts root))⟩

namespace Query

variable {d : Dialect} {q : Query} {s : Statement}

/-- The root is declared after what is projected, then come the joins in level order, and then no
    more tables. -/
theorem clauses?_select (hk : q.kind = .select) (h : q.compile d = .ok s) :
    ∃ projected rest, s.clauses? d = some (⟨"SELECT", projected⟩ ::
      ⟨"FROM", [.identifier q.table.name, .identifier q.table.aliasName]⟩ ::
        (q.table.levelOrder.map (·.declaration q.root) ++ rest)) ∧
      ∀ c ∈ rest, c.head ∈ ["WHERE", "GROUP BY", "ORDER BY", "LIMIT", "OFFSET"] := by
  have hj : (q.selectPlan.joins.map Plan.joinClause) =
      q.table.levelOrder.map (·.declaration q.root) := by
    simp only [selectPlan, List.map_map]
    refine List.map_congr_left fun j _ => ?_
    simp [Plan.joinClause, Join.clause, Join.declaration, Function.comp_def, Plan.joinTestParts,
      Condition.joinTest, Condition.parts, Plan.qualifiedParts, ColumnRef.target]
  rw [clauses?_compile h, plan, hk, Plan.clauses, Plan.selectClauses, hj]
  exact ⟨_, _, rfl, fun _ => Plan.head_mem_of_mem_selectEnd⟩

/-- The loop over the tree of an accepted select visits every table once, level by level; the
    statement declares the tables in this order, each with its own alias. -/
theorem tables_in_level_order (hk : q.kind = .select) (h : q.compile d = .ok s) :
    (∃ w, (∀ n ≥ q.table.tableCount, WorkList.run n (.start q.table) = .ok w) ∧ w.IsDone ∧
      w.visited = q.table :: q.table.levelOrder.map Join.table ∧
      JoinPlan.ofTree q.table = .ok w.plan ∧ w.plan.joins = q.table.levelOrder) ∧
    (∀ n < q.table.tableCount, ∃ w, WorkList.run n (.start q.table) = .ok w ∧ ¬ w.IsDone) ∧
    (q.table :: q.table.levelOrder.map Join.table ~ q.table.tables ∧
      q.table.levelOrder.length + 1 = q.table.tableCount) ∧
    (∀ before j after, q.table.levelOrder = before ++ j :: after →
      ∀ c ∈ j.table.joins, c ∈ after) ∧
    (∃ projected rest, s.clauses? d = some (⟨"SELECT", projected⟩ ::
      ⟨"FROM", [.identifier q.table.name, .identifier q.table.aliasName]⟩ ::
        (q.table.levelOrder.map (·.declaration q.root) ++ rest)) ∧
      ∀ c ∈ rest, c.head ∈ ["WHERE", "GROUP BY", "ORDER BY", "LIMIT", "OFFSET"]) ∧
    (q.table.tables.map JoinTree.aliasName).Nodup ∧
    ∀ t ∈ q.table.tables, t.aliasName =
      if t.key.occurrence = 0 then t.name else t.name ++ toString t.key.occurrence.toNat := by
  have hs : q.IsReadable d := by
    have hs := (isSound_iff.mp (compile_eq_ok_iff.mp h).1).1
    rwa [IsWellFormed, hk] at hs
  have hp : JoinPlan.ofTree q.table = .ok ⟨q.table.levelOrder, q.table.aliases⟩ :=
    JoinPlan.ofTree_eq_ok_iff.mpr ⟨aliases_nodup_iff.mpr hs.aliases_nodup, rfl⟩
  have hrun := WorkList.exists_run_of_ofTree hp
  refine ⟨?_, fun n hn => ?_, ⟨q.table.tables_perm, q.table.length_levelOrder⟩,
    fun _ _ _ hl c hc => JoinTree.mem_after_of_levelOrder hl hc, clauses?_select hk h,
    hs.aliases_nodup, fun t _ => rfl⟩
  · obtain ⟨w, hw, hd, hplan⟩ := hrun
    have hi := (WorkList.run_start hw).1
    have hl : w.work.length ≤ w.next := List.getElem?_eq_none_iff.mp hd
    refine ⟨w, fun n hn => ?_, hd, ?_, hplan ▸ hp, by rw [hplan]⟩
    · rw [← Nat.add_sub_of_le hn, WorkList.run_add, hw]
      exact WorkList.run_of_isDone hd _
    · rw [WorkList.visited, List.take_of_length_le hl, hi.work_eq, hplan]
  · -- the run of all steps begins with the one of these
    obtain ⟨w, hw, -⟩ := hrun
    rw [← Nat.add_sub_of_le (Nat.le_of_lt hn), WorkList.run_add] at hw
    obtain ⟨v, hv, -⟩ := bind_eq_ok_iff.mp hw
    obtain ⟨hi, hl⟩ := WorkList.run_start hv
    refine ⟨v, hv, fun hd => ?_⟩
    have hd := hi.isDone_iff.mp hd
    omega

/-- Staff with their managers, and with their sites, each of them in a city. -/
def staffing : Query where
  kind := .select
  table := .node ⟨"staff", 0⟩
    [.mk .left [⟨{ name := "manager" }, .eq, { table := some ⟨"staff", 1⟩, name := "id" }⟩]
      (.leaf ⟨"staff", 1⟩),
    .mk .inner [⟨{ name := "site" }, .eq, { table := some ⟨"site", 0⟩, name := "id" }⟩]
      (.node ⟨"site", 0⟩
        [.mk .inner [⟨{ table := some ⟨"site", 0⟩, name := "city" }, .eq,
            { table := some ⟨"city", 0⟩, name := "id" }⟩]
          (.leaf ⟨"city", 0⟩)])]
  columns := [{ name := "name" }]

theorem tables_in_level_order_staffing : ∃ s w,
    staffing.compile .postgres = .ok s ∧ WorkList.run 4 (.start staffing.table) = .ok w ∧
    w.IsDone ∧ w.visited.map JoinTree.aliasName = ["staff", "staff1", "site", "city"] := by
  obtain ⟨s, hs⟩ : ∃ s, staffing.compile .postgres = .ok s := ⟨_, rfl⟩
  obtain ⟨⟨w, hw, hd, hv, -⟩, -⟩ := tables_in_level_order rfl hs
  refine ⟨s, w, hs, hw 4 (by decide), hd, ?_⟩
  rw [hv]
  decide

end Query

end SqlGateway
