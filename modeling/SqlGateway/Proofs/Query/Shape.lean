import SqlGateway.Proofs.Query.Wording

/-! The shape of a query is what is left of it without its names: every table is the same table and
    every column the same column, and all else stays.

        staff ──left──▶ staff1        ▸        "" ──left──▶ ""
        count(staff.id) = 7                    count("") = 7

    The draft of a query without its identifiers comes from its shape alone. -/

namespace SqlGateway

open Draft

/-! ### Shapes -/

/-- The table of every shape. -/
def TableKey.shape : TableKey := ⟨"", 0⟩

def ColumnRef.shape (c : ColumnRef) : ColumnRef := { c with table := none, name := "" }

def Condition.shape (c : Condition) : Condition := ⟨c.left.shape, c.comparison, c.right.shape⟩

mutual

/-- The tree with the same table everywhere. -/
def JoinTree.shape : JoinTree → JoinTree
  | .node _ joins => .node TableKey.shape (shapes joins)

/-- Shapes of joins. -/
def JoinTree.shapes : List Join → List Join
  | [] => []
  | .mk kind conditions table :: rest =>
    .mk kind (conditions.map Condition.shape) (shape table) :: shapes rest

end

def Join.shape : Join → Join
  | .mk kind conditions table => .mk kind (conditions.map Condition.shape) table.shape

/-- A query without its names. -/
def Query.shape (q : Query) : Query :=
  { q with
    table := q.table.shape
    columns := q.columns.map ColumnRef.shape
    orderBy := q.orderBy.map ColumnRef.shape
    filters := q.filters.map ColumnRef.shape }

namespace JoinTree

theorem shapes_eq_map (js : List Join) : shapes js = js.map Join.shape := by
  induction js with
  | nil => rfl
  | cons j js ih =>
    cases j with
    | mk kind conditions table => rw [shapes, ih]; rfl

theorem joins_shape (t : JoinTree) : t.shape.joins = t.joins.map Join.shape := by
  cases t with
  | node key js => exact shapes_eq_map js

theorem table_shape (j : Join) : j.shape.table = j.table.shape := by
  cases j
  rfl

/-- Every level of the shape is the shape of that level. -/
theorem level_shape (t : JoinTree) (k : Nat) : t.shape.level k = (t.level k).map Join.shape := by
  induction k with
  | zero => exact joins_shape t
  | succ k ih =>
    have hj (j : Join) : j.shape.table.joins = j.table.joins.map Join.shape := by
      rw [table_shape, joins_shape]
    simp only [level, ih, List.flatMap_map, List.map_flatMap, hj]

mutual

theorem tableCount_shape : ∀ t : JoinTree, t.shape.tableCount = t.tableCount
  | .node _ joins => by rw [shape, tableCount, tableCount, joinedCount_shapes joins]

theorem joinedCount_shapes : ∀ js : List Join, joinedCount (shapes js) = joinedCount js
  | [] => rfl
  | .mk _ _ table :: rest => by
    rw [shapes, joinedCount, joinedCount, tableCount_shape table, joinedCount_shapes rest]

end

theorem levelOrder_shape (t : JoinTree) : t.shape.levelOrder = t.levelOrder.map Join.shape := by
  rw [levelOrder, levelOrder, tableCount_shape, List.map_flatMap, funext (level_shape t)]

end JoinTree

/-! ### Drafts of shapes -/

namespace Draft

/-- Drafts that are alike but for the names of their identifiers. -/
def Alike (a b : Draft) : Prop := a.map Fragment.erase = b.map Fragment.erase

namespace Alike

variable {a b a' b' : Draft}

theorem refl (a : Draft) : Alike a a := rfl

theorem identifier (a b : String) : Alike [.identifier a] [.identifier b] := rfl

theorem append (h : Alike a b) (h' : Alike a' b') : Alike (a ++ a') (b ++ b') := by
  rw [Alike, List.map_append, List.map_append, h, h']

theorem cons (f : Fragment) (h : Alike a b) : Alike (f :: a) (f :: b) := (refl [f]).append h

variable {α : Type} {f g : α → Draft}

theorem flatMap (h : ∀ x, Alike (f x) (g x)) (xs : List α) :
    Alike (xs.flatMap f) (xs.flatMap g) := by
  induction xs with
  | nil => rfl
  | cons x xs ih => exact (h x).append ih

theorem separated (separator : String) (h : ∀ x, Alike (f x) (g x)) (xs : List α) :
    Alike (separated separator (xs.map f)) (separated separator (xs.map g)) := by
  induction xs with
  | nil => rfl
  | cons x xs ih =>
    cases xs with
    | nil => exact h x
    | cons y xs => exact (h x).append (ih.cons (.text separator))

end Alike

end Draft

namespace Plan

theorem alike_expression {e e' : Expression} (h : e.aggregate = e'.aggregate) :
    Alike (expressionDraft e) (expressionDraft e') := by
  rw [expressionDraft, expressionDraft, h]
  cases e'.aggregate <;> rfl

theorem alike_projection {p p' : Projection} (h : p.expression.aggregate = p'.expression.aggregate) :
    Alike (projectionDraft p) (projectionDraft p') :=
  (alike_expression h).append (.cons _ (.identifier _ _))

theorem alike_sortKey {k k' : SortKey} (h : k.expression.aggregate = k'.expression.aggregate)
    (hd : k.descending = k'.descending) : Alike (sortKeyDraft k) (sortKeyDraft k') := by
  rw [sortKeyDraft, sortKeyDraft, hd]
  exact (alike_expression h).append (.refl _)

theorem alike_join {α : Type} {f g : α → JoinTest} (h : ∀ x, (f x).comparison = (g x).comparison)
    (kind : JoinKind) (name name' aliasName aliasName' : String) (xs : List α) :
    Alike (joinDraft ⟨kind, name, aliasName, xs.map f⟩)
      (joinDraft ⟨kind, name', aliasName', xs.map g⟩) := by
  have ht (x : α) : Alike (joinTestDraft (f x)) (joinTestDraft (g x)) := by
    rw [joinTestDraft, joinTestDraft, h x]
    rfl
  rw [joinDraft, joinDraft, List.map_map, List.map_map]
  exact Alike.append rfl (.separated _ ht xs)

theorem alike_where {α : Type} {f g : α → Draft} (h : ∀ x, Alike (f x) (g x)) (xs : List α) :
    Alike (whereDraft (xs.map f)) (whereDraft (xs.map g)) := by
  cases xs with
  | nil => rfl
  | cons x xs => exact (Alike.separated " AND " h (x :: xs)).cons _

/-- Tests of the same where entries. -/
theorem alike_tests {κ : Type} {front : κ → Draft} (h : ∀ k k', Alike (front k) (front k'))
    (key key' : ColumnRef → κ) (cs : List ColumnRef) :
    Alike (whereDraft ((cs.filterMap fun c => c.test?.map fun t => (key c, t)).map
        fun (k, t) => testDraft (front k) t))
      (whereDraft ((cs.filterMap fun c => c.test?.map fun t => (key' c, t)).map
        fun (k, t) => testDraft (front k) t)) := by
  have hm (key : ColumnRef → κ) : (cs.filterMap fun c => c.test?.map fun t => (key c, t)).map
      (fun (k, t) => testDraft (front k) t) =
      (cs.filterMap fun c => c.test?.map fun t => (c, t)).map
        fun (c, t) => testDraft (front (key c)) t := by
    simp [List.map_filterMap, Function.comp_def]
  rw [hm, hm]
  refine alike_where (fun (c, t) => ?_) _
  cases t <;> exact (h _ _).append (.refl _)

theorem alike_group {α : Type} (f g : α → Qualified) (xs : List α) :
    Alike (groupDraft (xs.map f)) (groupDraft (xs.map g)) := by
  cases xs with
  | nil => rfl
  | cons x xs =>
    have h := Alike.separated (f := fun x => qualified (f x).aliasName (f x).column)
      (g := fun x => qualified (g x).aliasName (g x).column) ", " (fun _ => rfl) (x :: xs)
    rw [groupDraft, groupDraft, List.map_map, List.map_map]
    exact h.cons _

theorem alike_sort {α : Type} {f g : α → SortKey}
    (h : ∀ x, Alike (sortKeyDraft (f x)) (sortKeyDraft (g x))) (xs : List α) :
    Alike (sortDraft (xs.map f)) (sortDraft (xs.map g)) := by
  cases xs with
  | nil => rfl
  | cons x xs =>
    rw [sortDraft, sortDraft, List.map_map, List.map_map]
    exact (Alike.separated ", " h (x :: xs)).cons _

end Plan

namespace Query

theorem groupColumns_shape (q : Query) :
    q.shape.groupColumns = q.groupColumns.map ColumnRef.shape := by
  have ha (p : Option Aggregate → Bool) :
      (fun c : ColumnRef => p c.aggregate) ∘ ColumnRef.shape = fun c => p c.aggregate := rfl
  rw [groupColumns, groupColumns, shape]
  simp only [List.any_map, List.filter_map, ha]
  split <;> rfl

theorem alike_clause (root root' : TableKey) (j : Join) :
    Alike (Plan.joinDraft (j.clause root)) (Plan.joinDraft (j.shape.clause root')) := by
  cases j with
  | mk kind conditions table =>
    have hc : (conditions.map Condition.shape).map (·.joinTest root') =
        conditions.map fun c => c.shape.joinTest root' := List.map_map ..
    rw [Join.clause, Join.clause, Join.shape, Join.conditions, Join.conditions, hc]
    refine Plan.alike_join ?_ kind _ _ _ _ conditions
    exact fun _ => rfl

theorem alike_select (d : Dialect) (q : Query) :
    Alike (Plan.selectDraft d q.selectPlan) (Plan.selectDraft d q.shape.selectPlan) := by
  have hp := Alike.separated (f := fun c : ColumnRef => Plan.projectionDraft (c.projection q.root))
    (g := fun c => Plan.projectionDraft (c.shape.projection q.shape.root)) ", "
    (fun _ => Plan.alike_projection rfl) q.columns
  have hj := Alike.flatMap (alike_clause q.root q.shape.root) q.table.levelOrder
  have hq (c c' : Qualified) :
      Alike (qualified c.aliasName c.column) (qualified c'.aliasName c'.column) := rfl
  have hf := Plan.alike_tests hq (fun c : ColumnRef => c.target q.root)
    (fun c => c.shape.target q.shape.root) q.filters
  have ht : q.shape.tests = q.filters.filterMap fun c =>
      c.test?.map fun t => (c.shape.target q.shape.root, t) := List.filterMap_map ..
  have hs := Plan.alike_sort (f := fun c : ColumnRef => c.sortKey q.root)
    (g := fun c => c.shape.sortKey q.shape.root) (fun _ => Plan.alike_sortKey rfl rfl) q.orderBy
  have hc : q.shape.columns = q.columns.map ColumnRef.shape := rfl
  have hl : q.shape.table.levelOrder = q.table.levelOrder.map Join.shape :=
    JoinTree.levelOrder_shape _
  have ho : q.shape.orderBy = q.orderBy.map ColumnRef.shape := rfl
  rw [Plan.selectDraft, Plan.selectDraft, groupKeys_eq, groupKeys_eq, groupColumns_shape]
  simp only [selectPlan, hc, hl, ho, ht, List.map_map, List.flatMap_map]
  refine Alike.append ?_ (.refl _)
  refine Alike.append ?_ hs
  refine Alike.append ?_ (Plan.alike_group _ _ _)
  refine Alike.append ?_ hf
  refine Alike.append ?_ hj
  exact Alike.append (hp.cons _) rfl

/-- The draft of a query is that of its shape but for the names. -/
theorem alike_draft_shape (d : Dialect) (q : Query) :
    Alike (q.plan.draft d) (q.shape.plan.draft d) := by
  have hk : q.shape.kind = q.kind := rfl
  have hw : Alike (Plan.writeWhereDraft q.writeTests) (Plan.writeWhereDraft q.shape.writeTests) := by
    have hs : q.shape.writeTests =
        q.filters.filterMap fun c => c.test?.map fun t => ("", t) := List.filterMap_map ..
    rw [Plan.writeWhereDraft, Plan.writeWhereDraft, hs]
    exact Plan.alike_tests Alike.identifier _ _ q.filters
  have hv : Plan.cells q.shape.columns = q.columns.map fun c => ("", c.writtenValue) :=
    List.map_map ..
  rw [plan, plan, hk]
  cases q.kind with
  | select => exact alike_select d q
  | insert =>
    simp only [Plan.draft, hv]
    rw [Plan.cells, List.map_map, List.map_map, List.map_map, List.map_map]
    refine Alike.append ?_ rfl
    refine Alike.append ?_ (.separated "," ?_ q.columns)
    refine Alike.append ?_ rfl
    refine Alike.append rfl (.separated "," ?_ q.columns)
    · exact fun _ => rfl
    · exact fun _ => rfl
  | update =>
    simp only [Plan.draft, hv]
    rw [Plan.cells, List.map_map, List.map_map]
    refine Alike.append ?_ hw
    refine Alike.append rfl (.separated ", " ?_ q.columns)
    exact fun _ => rfl
  | delete => exact Alike.append rfl hw

end Query

end SqlGateway
