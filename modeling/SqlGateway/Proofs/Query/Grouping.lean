import SqlGateway.Proofs.Query.NormalForm

/-! Grouping. A select groups where aggregates and plain columns meet in its projection; filters and
    sort keys have no say in it, not even sort keys with an aggregate.

        projection                    order              group keys
        t.a, t.b                      count(t.c)         -
        count(t.a), sum(t.b)          t.c                -
        t.a, count(t.b), u.c, t.a     …                  t.a, u.c, t.a

    So what a grouped select projects is an aggregate or the same for all rows of a group. -/

namespace SqlGateway

open Statement

namespace Query

/-- Do aggregates and plain columns meet in the projection? -/
def IsGrouped (q : Query) : Prop :=
  (∃ c ∈ q.columns, c.aggregate ≠ none) ∧ ∃ c ∈ q.columns, c.aggregate = none

/-- Projected columns without an aggregate. -/
def plainColumns (q : Query) : List ColumnRef := q.columns.filter (·.aggregate.isNone)

theorem groupColumns_of_isGrouped {q : Query} (h : q.IsGrouped) :
    q.groupColumns = q.plainColumns := by
  obtain ⟨⟨c, hc, ha⟩, -⟩ := h
  have hany : q.columns.any (·.aggregate.isSome) = true :=
    List.any_eq_true.mpr ⟨c, hc, Option.isSome_iff_ne_none.mpr ha⟩
  rw [groupColumns, if_pos hany, plainColumns]

theorem groupColumns_ne_nil {q : Query} : q.groupColumns ≠ [] ↔ q.IsGrouped := by
  constructor
  · intro h
    rw [groupColumns] at h
    split at h
    case isFalse => exact absurd rfl h
    case isTrue hany =>
      obtain ⟨c, hc, ha⟩ := List.any_eq_true.mp hany
      exact ⟨⟨c, hc, Option.isSome_iff_ne_none.mp ha⟩, by simpa using h⟩
  · intro h
    rw [groupColumns_of_isGrouped h]
    simpa [plainColumns] using h.2

end Query

/-! ### The clause -/

namespace NormalForm

open Plan

theorem bodies_ne_nil {head : String} {cs : List Clause} :
    bodies head cs ≠ [] ↔ ∃ c ∈ cs, c.head = head := by
  simp [bodies]

theorem isApart_qualified (c : Qualified) : IsApart (.mark ",") (qualifiedParts c) := by
  simp [IsApart, qualifiedParts]

/-- Nothing but the group keys brings about a clause to group by. -/
theorem bodies_group (d : Dialect) (p : SelectPlan) : bodies "GROUP BY" (selectClauses d p) =
    bodies "GROUP BY" (listClause "GROUP BY" (.mark ",") (p.groupKeys.map qualifiedParts)) := by
  have hb := bodies_select d p (rfl : joinKind? "GROUP BY" = none)
  simp (disch := decide) [hb, selectEnd, bodies_listClause_ne, bodies_window_ne]

theorem mapM_groupKeys (d : Dialect) (p : SelectPlan) :
    (itemsOf "GROUP BY" (.mark ",") (selectClauses d p)).mapM qualified? = some p.groupKeys := by
  simpa using mapM_itemsOf isApart_qualified qualified?_parts (bodies_group d p)

/-- The clause to group by stands once or not at all. -/
theorem bodies_group_eq (d : Dialect) (p : SelectPlan) : bodies "GROUP BY" (selectClauses d p) =
    if p.groupKeys = [] then []
    else [[.mark ","].intercalate (p.groupKeys.map qualifiedParts)] := by
  rw [bodies_group, bodies_listClause]
  simp only [List.map_eq_nil_iff]

end NormalForm

namespace Query

open NormalForm

variable {d : Dialect} {q : Query}

theorem groupKeys_eq_nil_iff : q.selectPlan.groupKeys = [] ↔ ¬ q.IsGrouped := by
  rw [groupKeys_eq, List.map_eq_nil_iff, ← groupColumns_ne_nil, not_not]

theorem hasGroup_iff :
    (∃ c ∈ Plan.selectClauses d q.selectPlan, c.head = "GROUP BY") ↔ q.IsGrouped := by
  rw [← bodies_ne_nil, bodies_group_eq, ne_eq, ite_eq_left_iff, groupKeys_eq_nil_iff]
  simp

/-- What a grouped select projects is an aggregate or one of its plain columns. -/
theorem aggregate_or_plain {e : Expression} (h : e ∈ q.columns.map (·.expression q.root)) :
    e.aggregate ≠ none ∨ e.target ∈ q.plainColumns.map (·.target q.root) := by
  obtain ⟨c, hc, rfl⟩ := List.mem_map.mp h
  rcases eq_or_ne c.aggregate none with ha | ha
  · exact .inr (List.mem_map_of_mem (List.mem_filter.mpr ⟨hc, by simp [ha]⟩))
  · exact .inl ha

/-- A select has a clause to group by if and only if aggregates and plain columns meet in its
    projection. The keys of the clause are the plain columns, so what is projected is an aggregate
    or a key. -/
theorem grouping_exact {s : Statement} (hk : q.kind = .select) (h : q.compile d = .ok s) :
    ∃ cs, s.clauses? d = some cs ∧
      ((∃ c ∈ cs, c.head = "GROUP BY") ↔
        (∃ c ∈ q.columns, c.aggregate ≠ none) ∧ ∃ c ∈ q.columns, c.aggregate = none) ∧
      ((∃ c ∈ cs, c.head = "GROUP BY") → ∃ body keys expressions,
        bodies "GROUP BY" cs = [body] ∧
        (items (.mark ",") body).mapM qualified? = some keys ∧
        keys = (q.columns.filter (·.aggregate.isNone)).map (·.target q.root) ∧
        (itemsOf "SELECT" (.mark ",") cs).mapM projection? = some expressions ∧
        expressions = q.columns.map (·.expression q.root) ∧
        ∀ e ∈ expressions, e.aggregate ≠ none ∨ e.target ∈ keys) := by
  have hp : q.plan.clauses d = Plan.selectClauses d q.selectPlan := by rw [plan, hk]; rfl
  refine ⟨_, clauses?_compile h, hp ▸ hasGroup_iff, fun hc => ?_⟩
  rw [hp] at hc ⊢
  have hq := hasGroup_iff.mp hc
  have hkeys : q.selectPlan.groupKeys = q.plainColumns.map (·.target q.root) := by
    rw [groupKeys_eq, groupColumns_of_isGrouped hq]
  have hbody := (bodies_group_eq d q.selectPlan).trans
    (if_neg (not_not.mpr hq ∘ groupKeys_eq_nil_iff.mp))
  have hread := mapM_groupKeys d q.selectPlan
  rw [itemsOf, hbody, List.flatMap_singleton, hkeys] at hread
  have hes : q.selectPlan.projections.map (·.expression) = q.columns.map (·.expression q.root) := by
    simp [selectPlan, ColumnRef.projection]
  exact ⟨_, _, _, hbody, hkeys ▸ hread, rfl,
    (mapM_projections d q.selectPlan).trans (congrArg some hes), rfl, fun _ => aggregate_or_plain⟩

/-- Plain columns and aggregates of two tables, one column twice, under a filter and an order. -/
def tally : Query where
  kind := .select
  table := .node ⟨"t", 0⟩ [.mk .left
    [{ left := { name := "a" }, right := { table := some ⟨"u", 0⟩, name := "a" } }]
    (.leaf ⟨"u", 0⟩)]
  columns := [{ name := "a" }, { name := "b", aggregate := some .count },
    { table := some ⟨"u", 0⟩, name := "c" }, { name := "a" }]
  filters := [{ name := "d", value := some (.int 1) }]
  orderBy := [{ name := "e", aggregate := some .max, descending := true }]

theorem grouping_exact_tally : ∃ s cs,
    tally.kind = .select ∧ tally.compile .mysql = .ok s ∧ s.clauses? .mysql = some cs ∧
      (∃ c ∈ cs, c.head = "GROUP BY") ∧ ∃ body, bodies "GROUP BY" cs = [body] ∧
        (items (.mark ",") body).mapM qualified? = some [⟨"t", "a"⟩, ⟨"u", "c"⟩, ⟨"t", "a"⟩] := by
  obtain ⟨s, hs⟩ : ∃ s, tally.compile .mysql = .ok s := ⟨_, rfl⟩
  obtain ⟨cs, hcs, hiff, hkeys⟩ := grouping_exact rfl hs
  have hg := hiff.mpr ⟨⟨{ name := "b", aggregate := some .count }, by decide, by decide⟩,
    ⟨{ name := "a" }, by decide, rfl⟩⟩
  obtain ⟨body, keys, -, hb, hk, rfl, -⟩ := hkeys hg
  exact ⟨s, cs, rfl, hs, hcs, hg, body, hb, hk⟩

end Query

end SqlGateway
