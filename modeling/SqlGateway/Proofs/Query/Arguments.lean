import SqlGateway.Proofs.Query.Mask

/-! Values travel as arguments only. A statement has a placeholder for every value that it binds, in
    the order of its arguments, and its text is the same for whatever values those are:

        UPDATE "t" SET "a" = $1, "b" = $2 WHERE "c" = $3 AND "d" IS NULL
                             ▲          ▲             ▲
        arguments          a's        b's           c's         d's null binds nothing           -/

namespace SqlGateway

open Statement Draft

/-- What a where entry binds: its value, if it has one that is not null. -/
def ColumnRef.boundValue? (c : ColumnRef) : Option Value :=
  match c.value with
  | some .null => none
  | v => v

namespace Query

/-- The values that the statement of a query binds, in order. -/
def boundValues (q : Query) : List Value :=
  match q.kind with
  | .insert => q.columns.map (·.writtenValue)
  | .update => q.columns.map (·.writtenValue) ++ q.filters.filterMap (·.boundValue?)
  | .select | .delete => q.filters.filterMap (·.boundValue?)

theorem filterMap_argument?_testHoles {column : ColumnRef → List Fragment}
    (hc : ∀ c, (column c).filterMap Fragment.argument? = []) (cs : List ColumnRef) :
    (cs.flatMap fun c => c.testHoles (column c)).filterMap Fragment.argument? =
      cs.filterMap (·.boundValue?) := by
  induction cs with
  | nil => rfl
  | cons c cs ih =>
    rw [List.flatMap_cons, List.filterMap_append, ih, List.filterMap_cons, ColumnRef.testHoles,
      ColumnRef.test?, ColumnRef.boundValue?]
    cases c.value with
    | none => rfl
    | some v => cases v <;> simp [Test.ofValue, Plan.testHoles, hc, Fragment.argument?]

/-- The arguments of a query are the values that it binds. -/
theorem arguments_draft (d : Dialect) (q : Query) :
    arguments (q.plan.draft d) = q.boundValues := by
  have hf : (q.filters.flatMap fun c => c.testHoles [.identifier c.name]).filterMap
      Fragment.argument? = q.filters.filterMap (·.boundValue?) :=
    filterMap_argument?_testHoles (fun _ => rfl) _
  rw [arguments_eq_holes, holes_draft, holes, boundValues]
  cases q.kind with
  | select =>
    have hs : (q.filters.flatMap fun c => c.testHoles (c.holes q.root)).filterMap
        Fragment.argument? = q.filters.filterMap (·.boundValue?) :=
      filterMap_argument?_testHoles (fun _ => rfl) _
    have hc (c : ColumnRef) : (c.holes q.root).filterMap Fragment.argument? = [] := rfl
    have hl (c : ColumnRef) : (c.holes q.root ++ [Fragment.identifier (c.label q.root)]).filterMap
        Fragment.argument? = [] := rfl
    have hj (j : Join) : (j.holes q.root).filterMap Fragment.argument? = [] := by
      rw [Join.holes, List.filterMap_append, List.filterMap_flatMap]
      exact List.flatMap_eq_nil_iff.mpr fun _ _ => rfl
    have hn {α : Type} (xs : List α) : (xs.flatMap fun _ => ([] : List Value)) = [] :=
      List.flatMap_eq_nil_iff.mpr fun _ _ => rfl
    rw [List.filterMap_append, List.filterMap_append, List.filterMap_append, List.filterMap_append,
      List.filterMap_append, hs]
    simp only [List.filterMap_flatMap, hc, hl, hj, hn]
    simp [Fragment.argument?]
  | insert =>
    have hw : Fragment.argument? ∘ (fun c : ColumnRef => .argument c.writtenValue) =
        some ∘ ColumnRef.writtenValue := rfl
    have hn : Fragment.argument? ∘ (fun c : ColumnRef => .identifier c.name) = fun _ => none := rfl
    rw [List.filterMap_cons, List.filterMap_append, List.filterMap_map, List.filterMap_map, hn, hw]
    simp [Fragment.argument?]
  | update =>
    have hw : (q.columns.flatMap fun c => [.identifier c.name, .argument c.writtenValue]).filterMap
        Fragment.argument? = q.columns.map (·.writtenValue) := by
      rw [List.filterMap_flatMap, List.map_eq_flatMap]
      rfl
    rw [List.filterMap_cons, List.filterMap_append, hf, hw]
    rfl
  | delete => exact hf

/-! ### Values and text -/

/-- A statement has one placeholder for each of its arguments, in their order, its arguments are what
    the query binds, and its text is the same whatever that is. -/
theorem values_as_arguments (d : Dialect) (q : Query) :
    (∀ s, q.compile d = .ok s → s.args = q.boundValues ∧
      ∃ ts, s.tokens? d = some ts ∧
        (ts.filterMap Token.placeholder?).length = s.args.length ∧
        (d = .postgres → ts.filterMap Token.placeholder? =
          (List.range' 1 s.args.length).map fun k => "$" ++ Number.natText k)) ∧
    ∀ q' : Query, q'.masked = q.masked →
      (q'.compile d).map Statement.sql = (q.compile d).map Statement.sql := by
  constructor
  · intro s h
    obtain ⟨-, rfl⟩ := compile_eq_ok_iff.mp h
    have ha : (q.plan.statement d).args = q.boundValues := arguments_draft d q
    have hp : (tokens d 0 (q.plan.draft d)).filterMap Token.placeholder? =
        (List.range' 1 (q.plan.statement d).args.length).map d.placeholder := by
      rw [filterMap_tokens Plan.isInteger_of_mem_integers (fun t ht => ht.placeholder?_eq) 0
        (Plan.sound_draft d q.plan), filterMap_placeholder?_outline]
      rfl
    refine ⟨ha, _, q.plan.tokens?_statement d, ?_, ?_⟩
    · rw [hp, List.length_map, List.length_range']
    · rintro rfl
      exact hp
  · intro q' h
    rw [← compile_masked d q', ← compile_masked d q, h]

/-- Writes two columns where a third one has a value and a fourth has none. -/
def overwrite (a b : Option Value) (c : Value) : Query :=
  { on .update "t" with
    columns := [{ name := "a", value := a }, { name := "b", value := b }]
    filters := [{ name := "c", value := some c }, { name := "d", value := some .null }] }

theorem values_as_arguments_overwrite : ∃ s s',
    (overwrite (some (.int 1)) none (.text "x")).compile .postgres = .ok s ∧
    (overwrite none (some (.text "'; --")) (.int 7)).compile .postgres = .ok s' ∧
    s.args = [.int 1, .null, .text "x"] ∧ s'.args = [.null, .text "'; --", .int 7] ∧
    s'.sql = s.sql := by
  obtain ⟨s, hs⟩ : ∃ s, (overwrite (some (.int 1)) none (.text "x")).compile .postgres = .ok s :=
    ⟨_, rfl⟩
  obtain ⟨s', hs'⟩ : ∃ s,
      (overwrite none (some (.text "'; --")) (.int 7)).compile .postgres = .ok s := ⟨_, rfl⟩
  have h := values_as_arguments .postgres (overwrite (some (.int 1)) none (.text "x"))
  have h' := values_as_arguments .postgres (overwrite none (some (.text "'; --")) (.int 7))
  have ht := h.2 (overwrite none (some (.text "'; --")) (.int 7)) rfl
  rw [hs, hs'] at ht
  exact ⟨s, s', hs, hs', (h.1 s hs).1, (h'.1 s' hs').1, Except.ok.inj ht⟩

end Query

end SqlGateway
