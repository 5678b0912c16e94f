import SqlGateway.Proofs.Query.Accepted
import SqlGateway.Proofs.Statement.Draft

/-! How plans are worded. The draft of every plan is sound, whatever its identifiers and values are,
    and what it holds besides its phrases is, in the order of the text:

        select    alias column label …  table alias  table alias alias column alias column …
                  alias column value …  alias column …  alias column …
        insert    table  column …  value …
        update    table  column value …  column value …
        delete    table  column value …                                                           -/

namespace SqlGateway

namespace Plan

open Draft

/-! ### Soundness -/

section Pieces

variable {integers : List String}

theorem sound_qualified (aliasName column : String) : Sound integers (qualified aliasName column) :=
  .of_isSound rfl

theorem sound_expression (e : Expression) : Sound integers (expressionDraft e) := by
  rw [expressionDraft]
  cases e.aggregate with
  | none => exact sound_qualified _ _
  | some f => cases f <;> exact .of_isSound rfl

theorem sound_projection (p : Projection) : Sound integers (projectionDraft p) :=
  (sound_expression _).append (.of_isSound rfl) (Or.inr rfl)

theorem sound_joinTest (t : JoinTest) : Sound integers (joinTestDraft t) := by
  rw [joinTestDraft]
  cases t.comparison <;> exact .of_isSound rfl

theorem sound_join (j : JoinClause) : Sound integers (joinDraft j) := by
  refine Sound.list ?_ rfl rfl rfl rfl ?_
  · cases j.kind <;> rfl
  · exact List.forall_mem_map.mpr fun t _ => sound_joinTest t

theorem sound_joins (js : List JoinClause) : Sound integers (js.flatMap joinDraft) := by
  induction js with
  | nil => exact Sound.nil
  | cons j js ih =>
    have ho : opens (js.flatMap joinDraft) = true := by cases js <;> rfl
    exact (sound_join j).append ih (Or.inr ho)

theorem sound_test {target : Draft} (h : Sound integers target) (t : Test) :
    Sound integers (testDraft target t) := by
  cases t <;> exact h.append (.of_isSound rfl) (Or.inr rfl)

theorem sound_where {tests : List Draft} (h : ∀ t ∈ tests, Sound integers t) :
    Sound integers (whereDraft tests) := by
  rw [whereDraft]
  split
  · exact Sound.nil
  · rw [← List.singleton_append]
    exact Sound.list rfl rfl rfl rfl rfl h

theorem sound_writeWhere (filters : List (String × Test)) :
    Sound integers (writeWhereDraft filters) :=
  sound_where (List.forall_mem_map.mpr fun _ _ => sound_test (.of_isSound rfl) _)

theorem sound_group (keys : List Qualified) : Sound integers (groupDraft keys) := by
  rw [groupDraft]
  split
  · exact Sound.nil
  · rw [← List.singleton_append]
    exact Sound.list rfl rfl rfl rfl rfl (List.forall_mem_map.mpr fun _ _ => sound_qualified _ _)

theorem sound_sortKey (k : SortKey) : Sound integers (sortKeyDraft k) := by
  rw [sortKeyDraft]
  cases k.descending <;> exact (sound_expression _).append (.of_isSound rfl) (Or.inr rfl)

theorem sound_sort (keys : List SortKey) : Sound integers (sortDraft keys) := by
  rw [sortDraft]
  split
  · exact Sound.nil
  · rw [← List.singleton_append]
    exact Sound.list rfl rfl rfl rfl rfl (List.forall_mem_map.mpr fun _ _ => sound_sortKey _)

/-- The integers that a window can show. -/
def windowIntegers (d : Dialect) (limit offset : Option UInt64) : List String :=
  (limit.toList ++ offset.toList).map (fun n => Number.natText n.toNat) ++ d.unboundedLimit.toList

theorem isInteger_of_mem_windowIntegers {d : Dialect} {limit offset : Option UInt64} :
    ∀ s ∈ windowIntegers d limit offset, IsInteger s := by
  intro s hs
  rcases List.mem_append.mp hs with hs | hs
  · obtain ⟨n, -, rfl⟩ := List.mem_map.mp hs
    exact Or.inr ⟨_, rfl⟩
  · cases d with
    | postgres => simp [Dialect.unboundedLimit] at hs
    | mysql =>
      obtain rfl := List.mem_singleton.mp hs
      exact Or.inr ⟨18446744073709551615, by decide⟩
    | sqlite => exact Or.inl (List.mem_singleton.mp hs)

/-- An integer after a phrase that ends with a break. -/
theorem sound_integer {front sql : String} (hf : isSound [.text front] = true)
    (hc : closes [.text front] = true) (hs : sql ∈ integers) :
    Sound integers [.text front, .text sql] := by
  have hi : Sound integers [.text sql] := by
    refine ⟨fun s h => ?_, List.isChain_singleton _⟩
    obtain rfl := Fragment.text.inj (List.mem_singleton.mp h)
    exact Or.inr hs
  exact (Sound.of_isSound hf).append hi (Or.inl hc)

end Pieces

theorem sound_window (d : Dialect) (limit offset : Option UInt64) :
    Sound (windowIntegers d limit offset) (windowDraft d limit offset) := by
  unfold windowDraft
  refine Sound.append ?_ ?_ (Or.inr ?_)
  · cases limit with
    | some n => exact sound_integer rfl rfl (by simp [windowIntegers])
    | none =>
      cases offset with
      | none => exact Sound.nil
      | some m =>
        cases hd : d.unboundedLimit with
        | none => exact Sound.nil
        | some all => exact sound_integer rfl rfl (by simp [windowIntegers, hd])
  · cases offset with
    | none => exact Sound.nil
    | some m => exact sound_integer rfl rfl (by simp [windowIntegers])
  · cases offset <;> rfl

theorem opens_where (tests : List Draft) : opens (whereDraft tests) = true := by
  rw [whereDraft]
  split <;> rfl

theorem opens_window (d : Dialect) (limit offset : Option UInt64) :
    opens (windowDraft d limit offset) = true := by
  unfold windowDraft
  cases limit with
  | some n => rfl
  | none =>
    cases offset with
    | none => rfl
    | some m => cases d.unboundedLimit <;> rfl

theorem sound_select (d : Dialect) (p : SelectPlan) :
    Sound (windowIntegers d p.limit p.offset) (selectDraft d p) := by
  have hp : Sound (windowIntegers d p.limit p.offset)
      (.text "SELECT " :: separated ", " (p.projections.map projectionDraft)) := by
    rw [← List.singleton_append]
    exact Sound.list rfl rfl rfl rfl rfl (List.forall_mem_map.mpr fun _ _ => sound_projection _)
  have hj : opens (p.joins.flatMap joinDraft) = true := by cases p.joins <;> rfl
  have hg : opens (groupDraft p.groupKeys) = true := by rw [groupDraft]; split <;> rfl
  have hs : opens (sortDraft p.sortKeys) = true := by rw [sortDraft]; split <;> rfl
  rw [selectDraft]
  refine Sound.append ?_ (sound_window d p.limit p.offset) (Or.inr (opens_window d _ _))
  refine Sound.append ?_ (sound_sort _) (Or.inr hs)
  refine Sound.append ?_ (sound_group _) (Or.inr hg)
  refine Sound.append ?_ (sound_where ?_) (Or.inr (opens_where _))
  · refine Sound.append ?_ (sound_joins _) (Or.inr hj)
    exact hp.append (.of_isSound rfl) (Or.inr rfl)
  · exact List.forall_mem_map.mpr fun _ _ => sound_test (sound_qualified _ _) _

/-- The integers that the statement of a plan can show. -/
def integers (d : Dialect) : Plan → List String
  | .select p => windowIntegers d p.limit p.offset
  | _ => []

theorem isInteger_of_mem_integers {d : Dialect} {p : Plan} : ∀ s ∈ p.integers d, IsInteger s := by
  cases p with
  | select p => exact isInteger_of_mem_windowIntegers
  | _ => simp [integers]

/-- The draft of every plan is sound. -/
theorem sound_draft (d : Dialect) (p : Plan) : Sound (p.integers d) (p.draft d) := by
  cases p with
  | select p => exact sound_select d p
  | insert table cells =>
    refine Sound.append ?_ (.of_isSound rfl) (Or.inr rfl)
    rw [List.append_assoc]
    refine Sound.append ?_ ?_ (Or.inr rfl)
    · exact Sound.list rfl rfl rfl rfl rfl (List.forall_mem_map.mpr fun _ _ => .of_isSound rfl)
    · exact Sound.list rfl rfl rfl rfl rfl (List.forall_mem_map.mpr fun _ _ => .of_isSound rfl)
  | update table cells filters =>
    refine Sound.append ?_ (sound_writeWhere filters) (Or.inr (opens_where _))
    exact Sound.list rfl rfl rfl rfl rfl (List.forall_mem_map.mpr fun _ _ => .of_isSound rfl)
  | delete table filters =>
    exact Sound.append (.of_isSound rfl) (sound_writeWhere filters) (Or.inr (opens_where _))

/-- The statement of every plan reads as the tokens of its draft. -/
theorem tokens?_statement (d : Dialect) (p : Plan) :
    (p.statement d).tokens? d = some (tokens d 0 (p.draft d)) := by
  rw [Statement.tokens?, statement, toList_render]
  exact read_chars isInteger_of_mem_integers 0 (sound_draft d p)

/-! ### What stands between the phrases -/

/-- The identifiers of a column under its alias. -/
def qualifiedHoles (c : Qualified) : List Fragment := [.identifier c.aliasName, .identifier c.column]

/-- The argument of a test, if it has one. -/
def testHoles : Test → List Fragment
  | .isNull => []
  | .equals v => [.argument v]

@[simp] theorem holes_qualified (aliasName column : String) :
    holes (qualified aliasName column) = qualifiedHoles ⟨aliasName, column⟩ := rfl

@[simp] theorem holes_expression (e : Expression) :
    holes (expressionDraft e) = qualifiedHoles e.target := by
  rw [expressionDraft]
  cases e.aggregate <;> rfl

@[simp] theorem holes_projection (p : Projection) : holes (projectionDraft p) =
    qualifiedHoles p.expression.target ++ [.identifier p.label] := by
  simp [projectionDraft]

@[simp] theorem holes_joinTest (t : JoinTest) : holes (joinTestDraft t) =
    qualifiedHoles t.left ++ qualifiedHoles t.right := by
  simp [joinTestDraft]

@[simp] theorem holes_join (j : JoinClause) : holes (joinDraft j) =
    [.identifier j.name, .identifier j.aliasName] ++
      j.tests.flatMap fun t => qualifiedHoles t.left ++ qualifiedHoles t.right := by
  simp [joinDraft, List.flatMap_map]

@[simp] theorem holes_test (target : Draft) (t : Test) :
    holes (testDraft target t) = holes target ++ testHoles t := by
  cases t <;> simp [testDraft, testHoles]

@[simp] theorem holes_where (tests : List Draft) :
    holes (whereDraft tests) = tests.flatMap holes := by
  cases tests <;> simp [whereDraft]

@[simp] theorem holes_writeWhere (filters : List (String × Test)) :
    holes (writeWhereDraft filters) =
      filters.flatMap fun (c, t) => .identifier c :: testHoles t := by
  simp [writeWhereDraft, List.flatMap_map]

@[simp] theorem holes_group (keys : List Qualified) :
    holes (groupDraft keys) = keys.flatMap qualifiedHoles := by
  cases keys <;> simp [groupDraft, List.flatMap_map]

@[simp] theorem holes_sortKey (k : SortKey) :
    holes (sortKeyDraft k) = qualifiedHoles k.expression.target := by
  rw [sortKeyDraft]
  cases k.descending <;> simp

@[simp] theorem holes_sort (keys : List SortKey) :
    holes (sortDraft keys) = keys.flatMap fun k => qualifiedHoles k.expression.target := by
  cases keys <;> simp [sortDraft, List.flatMap_map]

@[simp] theorem holes_window (d : Dialect) (limit offset : Option UInt64) :
    holes (windowDraft d limit offset) = [] := by
  unfold windowDraft
  cases limit with
  | some n => cases offset <;> rfl
  | none =>
    cases offset with
    | none => rfl
    | some m => cases d <;> rfl

theorem holes_select (d : Dialect) (p : SelectPlan) : holes (selectDraft d p) =
    (p.projections.flatMap fun p => qualifiedHoles p.expression.target ++ [.identifier p.label]) ++
      ([.identifier p.table, .identifier p.aliasName] ++
      ((p.joins.flatMap fun j => [.identifier j.name, .identifier j.aliasName] ++
        j.tests.flatMap fun t => qualifiedHoles t.left ++ qualifiedHoles t.right) ++
      ((p.filters.flatMap fun (c, t) => qualifiedHoles c ++ testHoles t) ++
      (p.groupKeys.flatMap qualifiedHoles ++
        p.sortKeys.flatMap fun k => qualifiedHoles k.expression.target)))) := by
  simp [selectDraft, List.flatMap_map]

end Plan

/-! ### What a query puts between the phrases -/

open Draft

/-- The alias and the name of a column. -/
def ColumnRef.holes (c : ColumnRef) (root : TableKey) : List Fragment :=
  [.identifier (c.tableAlias root), .identifier c.name]

/-- The column of a where entry and what it is compared with, if the entry has a value. -/
def ColumnRef.testHoles (c : ColumnRef) (column : List Fragment) : List Fragment :=
  match c.test? with
  | none => []
  | some t => column ++ Plan.testHoles t

/-- The value that a column is written with. -/
def ColumnRef.writtenValue (c : ColumnRef) : Value := c.value.getD .null

def Join.holes (j : Join) (root : TableKey) : List Fragment :=
  [.identifier j.table.name, .identifier j.table.aliasName] ++
    j.conditions.flatMap fun c => c.left.holes root ++ c.right.holes root

namespace Query

/-- The columns to group by: those without an aggregate, if there are others. -/
def groupColumns (q : Query) : List ColumnRef :=
  if q.columns.any (·.aggregate.isSome) then q.columns.filter (·.aggregate.isNone) else []

/-- The identifiers and the arguments of the statement of a query, in order. -/
def holes (q : Query) : List Fragment :=
  match q.kind with
  | .select =>
    (q.columns.flatMap fun c => c.holes q.root ++ [.identifier (c.label q.root)]) ++
      ([.identifier q.table.name, .identifier q.table.aliasName] ++
      (q.table.levelOrder.flatMap (·.holes q.root) ++
      ((q.filters.flatMap fun c => c.testHoles (c.holes q.root)) ++
      (q.groupColumns.flatMap (·.holes q.root) ++ q.orderBy.flatMap (·.holes q.root)))))
  | .insert =>
    .identifier q.table.name :: ((q.columns.map fun c => .identifier c.name) ++
      q.columns.map fun c => .argument c.writtenValue)
  | .update =>
    .identifier q.table.name ::
      ((q.columns.flatMap fun c => [.identifier c.name, .argument c.writtenValue]) ++
      q.filters.flatMap fun c => c.testHoles [.identifier c.name])
  | .delete =>
    .identifier q.table.name :: q.filters.flatMap fun c => c.testHoles [.identifier c.name]

theorem groupKeys_eq (q : Query) :
    q.selectPlan.groupKeys = q.groupColumns.map (·.target q.root) := by
  have ha : (fun p : Projection => p.expression.aggregate.isSome) ∘ (·.projection q.root) =
      fun c : ColumnRef => c.aggregate.isSome := rfl
  have hn : (fun p : Projection => p.expression.aggregate.isNone) ∘ (·.projection q.root) =
      fun c : ColumnRef => c.aggregate.isNone := rfl
  rw [selectPlan, groupColumns]
  simp only [Plan.groupKeys, List.any_map, List.filter_map, List.map_map, ha, hn]
  split <;> rfl

/-- A test for every where entry with a value. -/
theorem flatMap_tests {α : Type} (name : ColumnRef → α) (column : α → List Fragment)
    (cs : List ColumnRef) : ((cs.filterMap fun c => c.test?.map fun t => (name c, t)).flatMap
      fun (a, t) => column a ++ Plan.testHoles t) =
        cs.flatMap fun c => c.testHoles (column (name c)) := by
  induction cs with
  | nil => rfl
  | cons c cs ih =>
    rw [List.flatMap_cons, ← ih, ColumnRef.testHoles]
    cases h : c.test? <;> simp [h]

/-- The draft of the plan of a query has the holes of the query. -/
theorem holes_draft (d : Dialect) (q : Query) : Draft.holes (q.plan.draft d) = q.holes := by
  rw [plan, holes]
  cases q.kind with
  | select =>
    have ht := flatMap_tests (·.target q.root) Plan.qualifiedHoles q.filters
    simp only [Plan.draft]
    rw [Plan.holes_select, groupKeys_eq]
    simp only [selectPlan, tests, Join.clause, List.flatMap_map]
    rw [ht]
    rfl
  | insert =>
    simp [Plan.draft, Plan.cells, List.flatMap_map, ColumnRef.writtenValue, ← List.map_eq_flatMap]
  | update =>
    have ht := flatMap_tests (·.name) (fun c => [.identifier c]) q.filters
    simp only [List.singleton_append] at ht
    simp [Plan.draft, Plan.cells, List.flatMap_map, ColumnRef.writtenValue, writeTests, ht]
  | delete =>
    have ht := flatMap_tests (·.name) (fun c => [.identifier c]) q.filters
    simp only [List.singleton_append] at ht
    simp [Plan.draft, writeTests, ht]

end Query

end SqlGateway
