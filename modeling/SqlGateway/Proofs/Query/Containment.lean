import SqlGateway.Proofs.Query.Shape

/-! Identifiers stay inside their quotes. The statement of a query reads as tokens of a fixed
    vocabulary with the identifiers that the query supplies between them, whatever those hold:

        table a"b, column x; --   ─▶   SELECT "a""b"."x; --" "a""b.x; --" FROM "a""b" "a""b"
                                 ─▶   SELECT · a"b · x; -- · a"b.x; -- · FROM · a"b · a"b

    so two queries that differ in their names alone are read alike but for those names. -/

namespace SqlGateway

open Statement Draft

/-! ### The identifiers of a query -/

/-- The alias of the table of a column and the name of the column. -/
def ColumnRef.identifiers (c : ColumnRef) (root : TableKey) : List String :=
  [c.tableAlias root, c.name]

/-- The name and the alias of a joined table and the columns of its conditions. -/
def Join.identifiers (j : Join) (root : TableKey) : List String :=
  [j.table.name, j.table.aliasName] ++
    j.conditions.flatMap fun c => c.left.identifiers root ++ c.right.identifiers root

theorem ColumnRef.filterMap_holes (c : ColumnRef) (root : TableKey) :
    (c.holes root).filterMap Fragment.identifier? = c.identifiers root := rfl

theorem Join.filterMap_holes (j : Join) (root : TableKey) :
    (j.holes root).filterMap Fragment.identifier? = j.identifiers root := by
  simp only [Join.holes, Join.identifiers, List.filterMap_append, List.filterMap_flatMap,
    ColumnRef.filterMap_holes]
  rfl

namespace Query

/-- The where entries that have a value. -/
def valuedFilters (q : Query) : List ColumnRef := q.filters.filter (·.value.isSome)

/-- Every identifier of the statement of a query, in order. -/
def identifiers (q : Query) : List String :=
  match q.kind with
  | .select =>
    (q.columns.flatMap fun c => c.identifiers q.root ++ [c.label q.root]) ++
      ([q.table.name, q.table.aliasName] ++
      (q.table.levelOrder.flatMap (·.identifiers q.root) ++
      (q.valuedFilters.flatMap (·.identifiers q.root) ++
      (q.groupColumns.flatMap (·.identifiers q.root) ++
        q.orderBy.flatMap (·.identifiers q.root)))))
  | .insert => q.table.name :: q.columns.map (·.name)
  | .update => q.table.name :: (q.columns.map (·.name) ++ q.valuedFilters.map (·.name))
  | .delete => q.table.name :: q.valuedFilters.map (·.name)

/-- The integers that the window of a query can show; a write has none. -/
def windowIntegers (d : Dialect) (q : Query) : List String :=
  if q.kind = .select then Plan.windowIntegers d q.limit q.offset else []

theorem integers_plan (d : Dialect) (q : Query) : q.plan.integers d = q.windowIntegers d := by
  rw [plan, windowIntegers]
  cases q.kind <;> rfl

/-- What the where entries show of a kind of holes that no argument has. -/
theorem filterMap_testHoles {α : Type} {f : Fragment → Option α} (hf : ∀ v, f (.argument v) = none)
    (column : ColumnRef → List Fragment) (cs : List ColumnRef) :
    (cs.flatMap fun c => c.testHoles (column c)).filterMap f =
      (cs.filter (·.value.isSome)).flatMap fun c => (column c).filterMap f := by
  induction cs with
  | nil => rfl
  | cons c cs ih =>
    rw [List.flatMap_cons, List.filterMap_append, ih, ColumnRef.testHoles, ColumnRef.test?]
    cases hv : c.value with
    | none => simp [hv]
    | some v => cases v <;> simp [hv, Test.ofValue, Plan.testHoles, hf]

/-- The draft of a query has the identifiers of the query. -/
theorem identifiers_draft (d : Dialect) (q : Query) :
    Draft.identifiers (q.plan.draft d) = q.identifiers := by
  have hf := filterMap_testHoles (f := Fragment.identifier?) (fun _ => rfl)
  have hc : Fragment.identifier? ∘ (fun c : ColumnRef => .identifier c.name) =
      some ∘ ColumnRef.name := rfl
  have hv : Fragment.identifier? ∘ (fun c : ColumnRef => .argument c.writtenValue) =
      fun _ => none := rfl
  have hw : (q.filters.flatMap fun c => c.testHoles [.identifier c.name]).filterMap
      Fragment.identifier? = q.valuedFilters.map (·.name) := by
    rw [hf, valuedFilters, List.map_eq_flatMap]
    rfl
  rw [identifiers_eq_holes, holes_draft, holes, identifiers]
  cases q.kind with
  | select =>
    simp only [List.filterMap_append, List.filterMap_flatMap, hf, ColumnRef.filterMap_holes,
      Join.filterMap_holes]
    rfl
  | insert =>
    simp [Fragment.identifier?, List.filterMap_map, hc, hv]
  | update =>
    have hs : (q.columns.flatMap fun c => [.identifier c.name, .argument c.writtenValue]).filterMap
        Fragment.identifier? = q.columns.map (·.name) := by
      rw [List.filterMap_flatMap, List.map_eq_flatMap]
      rfl
    rw [List.filterMap_cons, List.filterMap_append, hs, hw]
    rfl
  | delete => exact congrArg (q.table.name :: ·) hw

/-! ### Containment -/

/-- The text of a statement reads without fault, its identifiers are those of the query, all else is
    of the fixed vocabulary, and queries of one shape read alike but for their identifiers. -/
theorem identifiers_contained {d : Dialect} {q : Query} {s : Statement} (h : q.compile d = .ok s) :
    ∃ ts, s.tokens? d = some ts ∧ ts.filterMap Token.identifier? = q.identifiers ∧
      (∀ t ∈ ts, t.identifier? = none →
        IsPlain (q.windowIntegers d) t ∨ ∃ k, t = .placeholder (d.placeholder k)) ∧
      ∀ (q' : Query) (s' : Statement), q'.compile d = .ok s' → q'.shape = q.shape →
        ∃ ts', s'.tokens? d = some ts' ∧ ts'.map Token.erase = ts.map Token.erase := by
  have hi (q : Query) : ∀ n ∈ q.plan.integers d, IsInteger n := Plan.isInteger_of_mem_integers
  have hd (q : Query) : Sound (q.plan.integers d) (q.plan.draft d) := Plan.sound_draft d q.plan
  have hr (q : Query) (s : Statement) (h : q.compile d = .ok s) :
      s.tokens? d = some (tokens d 0 (q.plan.draft d)) := by
    obtain ⟨-, rfl⟩ := compile_eq_ok_iff.mp h
    exact q.plan.tokens?_statement d
  refine ⟨_, hr q s h, ?_, fun t ht hn => ?_, fun q' s' h' hs => ⟨_, hr q' s' h', ?_⟩⟩
  · rw [filterMap_tokens (hi q) (fun t ht => ht.identifier?_eq) 0 (hd q),
      filterMap_identifier?_outline, identifiers_draft]
  · rw [← q.integers_plan]
    refine (mem_tokens (hi q) (hd q) ht).imp_right fun ho => ?_
    rcases mem_outline ho with ⟨name, rfl⟩ | hk
    · simp [Token.identifier?] at hn
    · exact hk
  · have ha : (q'.plan.draft d).map Fragment.erase = (q.plan.draft d).map Fragment.erase :=
      calc (q'.plan.draft d).map Fragment.erase
          = (q'.shape.plan.draft d).map Fragment.erase := q'.alike_draft_shape d
        _ = (q.shape.plan.draft d).map Fragment.erase := by rw [hs]
        _ = (q.plan.draft d).map Fragment.erase := (q.alike_draft_shape d).symm
    rw [map_erase_tokens (hi q') 0 (hd q'), map_erase_tokens (hi q) 0 (hd q), ha]

/-- Reads one column under one condition. -/
def single (table column filter : String) : Query :=
  ((on .select table).addColumn { name := column }).addFilter
    { name := filter, value := some (.bool true) }

/-- Quotes, semicolons, comment marks and placeholders in the names change nothing but the names. -/
theorem identifiers_contained_single : ∃ s s' ts ts',
    (single "t" "a" "b").compile .postgres = .ok s ∧
    (single "t\"; --" "a? $9" "`b").compile .postgres = .ok s' ∧
    s.tokens? .postgres = some ts ∧ s'.tokens? .postgres = some ts' ∧
    ts.filterMap Token.identifier? = ["t", "a", "t.a", "t", "t", "t", "b"] ∧
    ts'.map Token.erase = ts.map Token.erase := by
  obtain ⟨s', hs'⟩ : ∃ s, (single "t\"; --" "a? $9" "`b").compile .postgres = .ok s := ⟨_, rfl⟩
  obtain ⟨s, hs⟩ : ∃ s, (single "t" "a" "b").compile .postgres = .ok s := ⟨_, rfl⟩
  obtain ⟨ts, ht, hn, -, ha⟩ := identifiers_contained hs
  obtain ⟨ts', ht', he⟩ := ha _ s' hs' rfl
  exact ⟨s, s', ts, ts', hs, hs', ht, ht', hn, he⟩

end Query

end SqlGateway
