import SqlGateway.Proofs.Query.Body
import SqlGateway.Proofs.Query.Grouping

/-! The condition of a statement. It asks what the where entries of the document ask, one after the
    other, and nothing else:

        {"name":"a"}                     -
        {"name":"b","value":null}        t . b IS NULL
        {"name":"c","value":1}           t . c = the argument 1
        {"name":"d","value":"x"}         t . d = the argument x

    so the entries without a value may as well be left out, and where no entry has one there is no
    condition. An update or a delete is then turned down, unless the document allows it. -/

namespace SqlGateway

open Json (Source)
open Statement Plan NormalForm

namespace Query

variable {d : Dialect} {q : Query} {s : Statement}

/-! ### What filters ask -/

/-- The column of a filter as it stands in the statement. -/
def filterTarget (q : Query) (c : ColumnRef) : List Part :=
  match q.kind with
  | .select => qualifiedParts (c.target q.root)
  | _ => [.identifier c.name]

/-- What the filters ask, in order. -/
def conditions (q : Query) : List (List Part) :=
  q.filters.filterMap fun c => c.test?.map (testParts (q.filterTarget c))

theorem map_tests (hk : q.kind = .select) :
    q.tests.map (fun (c, t) => testParts (qualifiedParts c) t) = q.conditions := by
  have ht : q.filterTarget = fun c => qualifiedParts (c.target q.root) := by
    funext c
    rw [filterTarget, hk]
  rw [tests, conditions, List.map_filterMap, ht]
  simp only [Option.map_map]
  rfl

theorem map_writeTests (hk : q.kind ≠ .select) :
    q.writeTests.map (fun (c, t) => testParts [.identifier c] t) = q.conditions := by
  have ht : q.filterTarget = fun c => [.identifier c.name] := by
    funext c
    rw [filterTarget]
    split
    case h_1 h => exact absurd h hk
    case h_2 => rfl
  rw [writeTests, conditions, List.map_filterMap, ht]
  simp only [Option.map_map]
  rfl

theorem conditions_ne_nil : q.conditions ≠ [] ↔ ∃ c ∈ q.filters, c.value ≠ none := by
  simp [conditions, ColumnRef.test?, List.filterMap_eq_nil_iff]

/-- The condition stands once or not at all. -/
theorem bodies_where (d : Dialect) (hk : q.kind ≠ .insert) : bodies "WHERE" (q.plan.clauses d) =
    if q.conditions = [] then [] else [[.word "AND"].intercalate q.conditions] := by
  rw [plan, ← bodies_listClause]
  cases h : q.kind with
  | insert => exact absurd h hk
  | select =>
    have hb := bodies_select d q.selectPlan (rfl : joinKind? "WHERE" = none)
    rw [← map_tests h]
    simp (disch := decide) [clauses, hb, selectEnd, bodies_listClause_ne, bodies_window_ne]
    rfl
  | update =>
    rw [← map_writeTests (by simp [h])]
    simp [clauses, writeWhereClause]
  | delete =>
    rw [← map_writeTests (by simp [h])]
    simp [clauses, writeWhereClause]

/-- The condition that a where entry of a document stands for: its column is null, if this is its
    value, or equals the argument that its value is. -/
inductive Asks (target : ColumnRef → List Part) (entry : Source) : List Part → Prop
  | isNull {c : ColumnRef} (hc : ColumnRef.decoder (Json.depthLimit - 2) entry = .ok c)
      (hv : entry.field? 4 "value" = some .null) :
      Asks target entry (target c ++ [.word "IS", .word "NULL"])
  | equals {c : ColumnRef} {v : Source} {x : Value}
      (hc : ColumnRef.decoder (Json.depthLimit - 2) entry = .ok c)
      (hv : entry.field? 4 "value" = some v) (hn : v ≠ .null) (hx : Value.decoder 0 v = .ok x) :
      Asks target entry (target c ++ [.mark "=", .argument x])

/-- The filters ask what the entries with a value stand for. -/
theorem conditions_asked {body : Source} (h : decoder Json.depthLimit body = .ok q) :
    List.Forall₂ (Asks q.filterTarget) ((whereEntries body).filter ColumnRef.hasValue)
      q.conditions := by
  rw [conditions, ← List.filterMap_eq_filter]
  refine List.rel_filterMap ?_ (filters_of_decoder h).1
  intro e c hc
  -- An entry and its filter have a value both or neither.
  have hr := ColumnRef.value_of_decoder hc
  change Option.Rel _ _ ((c.value.map Test.ofValue).map _)
  generalize hv : e.field? 4 "value" = v at hr
  generalize c.value = x at hr
  have hguard : Option.guard ColumnRef.hasValue e = if v.isSome then some e else none := by
    rw [Option.guard, ColumnRef.hasValue, hv]
  rw [hguard]
  cases hr with
  | none => exact .none
  | @some v x hx =>
    refine .some ?_
    rcases eq_or_ne v .null with rfl | hn
    · rw [hx.2.mpr rfl]
      exact .isNull hc hv
    · have ht : Test.ofValue x = .equals x := by
        cases x with
        | null => exact absurd (hx.2.mp rfl) hn
        | _ => rfl
      rw [ht]
      exact .equals hc hv hn hx.1

/-! ### Filters without a value -/

theorem filterMap_valued {α : Type} (f : ColumnRef → Test → α) :
    q.valued.filters.filterMap (fun c => c.test?.map (f c)) =
      q.filters.filterMap fun c => c.test?.map (f c) := by
  rw [valued, List.filterMap_filter]
  congr 1
  funext c
  cases hv : c.value <;> simp [ColumnRef.test?, hv]

theorem plan_valued : q.valued.plan = q.plan := by
  have ht : q.valued.tests = q.tests := filterMap_valued fun c t => (c.target q.root, t)
  have hw : q.valued.writeTests = q.writeTests := filterMap_valued fun c t => (c.name, t)
  rw [plan, plan, selectPlan, selectPlan, ht, hw]
  rfl

theorem isSound_valued (h : q.IsSound d) : q.valued.IsSound d := by
  have hsub {c : ColumnRef} (hc : c ∈ q.valued.filters) : c ∈ q.filters :=
    (List.mem_filter.mp hc).1
  have hguarded (h : q.IsGuarded) : q.valued.IsGuarded := by
    refine h.imp_right ?_
    rintro ⟨c, hc, hv⟩
    exact ⟨c, List.mem_filter.mpr ⟨hc, Option.isSome_iff_ne_none.mpr hv⟩, hv⟩
  have hsingle (h : q.IsSingle) : q.valued.IsSingle :=
    ⟨h.joins_eq, h.order_eq, fun c hc => h.columns c (List.mem_append.mpr
      ((List.mem_append.mp hc).imp_right hsub))⟩
  have hk : q.valued.kind = q.kind := rfl
  rw [IsSound] at h ⊢
  rw [hk]
  cases hq : q.kind with
  | select =>
    rw [hq] at h
    exact ⟨h.columns_ne, h.aliases_nodup, h.columns, h.joins, fun c hc => h.filters c (hsub hc),
      h.orderBy⟩
  | insert =>
    rw [hq] at h
    exact ⟨hsingle h.1, h.2.1, by rw [valued, h.2.2]; rfl⟩
  | update =>
    rw [hq] at h
    exact ⟨hsingle h.1, h.2.1, hguarded h.2.2⟩
  | delete =>
    rw [hq] at h
    exact ⟨hsingle h.1, h.2.1, hguarded h.2.2⟩

/-- A query is the same statement without its filters of no value. -/
theorem compile_valued (h : q.compile d = .ok s) : q.valued.compile d = .ok s := by
  obtain ⟨hs, rfl⟩ := compile_eq_ok_iff.mp h
  exact compile_eq_ok_iff.mpr ⟨isSound_valued hs, by rw [plan_valued]⟩

/-! ### The condition -/

/-- The condition of a statement is what the where entries of its document ask that have a value, in
    order. There is none if no entry has a value, and then an update or a delete is allowed to go
    without one by its document. The document without the entries of no value is the same
    statement. -/
theorem condition_exact {text : String} (hq : ofText text = .ok q) (hk : q.kind ≠ .insert)
    (hs : q.compile d = .ok s) : ∃ body cs asked,
      (Json.Document.ofText text).root = body ∧ s.clauses? d = some cs ∧
      List.Forall₂ (Asks q.filterTarget) ((whereEntries body).filter ColumnRef.hasValue) asked ∧
      bodies "WHERE" cs = (if asked = [] then [] else [[.word "AND"].intercalate asked]) ∧
      ((∃ c ∈ cs, c.head = "WHERE") ↔ ∃ e ∈ whereEntries body, ColumnRef.hasValue e = true) ∧
      (∃ q', decoder Json.depthLimit (prune body) = .ok q' ∧ q'.compile d = .ok s) ∧
      (∀ text', Json.Document.ofText text' = ⟨prune body, false⟩ →
        ∃ q', ofText text' = .ok q' ∧ q'.compile d = .ok s) ∧
      (q.kind = .update ∨ q.kind = .delete → (¬ ∃ c ∈ cs, c.head = "WHERE") →
        body.field? 7 "allowUnfiltered" = some (.bool true)) := by
  obtain ⟨hbody, -⟩ := Json.decode_eq_ok.mp hq
  obtain ⟨-, hpruned⟩ := filters_of_decoder hbody
  have hasked := conditions_asked hbody
  have hwhere := bodies_where d hk
  have hany : q.conditions ≠ [] ↔
      ∃ e ∈ whereEntries (Json.Document.ofText text).root, ColumnRef.hasValue e = true := by
    rw [← List.length_pos_iff, ← hasked.length_eq, List.length_pos_iff, ne_eq,
      List.filter_eq_nil_iff]
    simp
  have hcondition : (∃ c ∈ q.plan.clauses d, c.head = "WHERE") ↔ q.conditions ≠ [] := by
    rw [← bodies_ne_nil, hwhere]
    split <;> simp_all
  refine ⟨_, _, _, rfl, clauses?_compile hs, hasked, hwhere, hcondition.trans hany,
    ⟨_, hpruned, compile_valued hs⟩, fun text' ht => ⟨_, ?_, compile_valued hs⟩, fun hw hno => ?_⟩
  · exact Json.decode_eq_ok.mpr ⟨by rw [ht]; exact hpruned, by rw [ht]⟩
  · have hguarded : q.IsGuarded := by
      have hsound := (compile_eq_ok_iff.mp hs).1
      rw [IsSound] at hsound
      rcases hw with hw | hw
      · rw [hw] at hsound
        exact hsound.2.2
      · rw [hw] at hsound
        exact hsound.2.2
    refine allowUnfiltered_of_decoder hbody (hguarded.resolve_right fun hvalue => ?_)
    exact hno (hcondition.mpr (conditions_ne_nil.mpr hvalue))

/-- Deletes by a test for null and one for a value; a third filter has no value. -/
def purge : Query where
  kind := .delete
  table := .leaf ⟨"t", 0⟩
  filters := [{ name := "a" }, { name := "b", value := some .null },
    { name := "c", value := some (.int 1) }]

/-- The filter without a value asks nothing, so the text without it is the same statement. -/
theorem condition_exact_purge : ∃ s cs asked, purge.compile .postgres = .ok s ∧
    ofText purge.toJson.text = .ok purge ∧ s.clauses? .postgres = some cs ∧
    bodies "WHERE" cs = [[.word "AND"].intercalate asked] ∧ asked.length = 2 ∧
    ∃ q, ofText purge.valued.toJson.text = .ok q ∧ q.compile .postgres = .ok s := by
  obtain ⟨s, hs⟩ : ∃ s, purge.compile .postgres = .ok s := ⟨_, rfl⟩
  have htext : Json.Document.ofText purge.toJson.text = ⟨purge.toJson.source, false⟩ :=
    Json.ofText_text (by repeat' constructor)
  have hpruned : Json.Document.ofText purge.valued.toJson.text =
      ⟨prune purge.toJson.source, false⟩ :=
    (Json.ofText_text (by repeat' constructor)).trans rfl
  have hread : ofText purge.toJson.text = .ok purge :=
    Json.decode_eq_ok.mpr ⟨by rw [htext]; rfl, by rw [htext]⟩
  obtain ⟨body, cs, asked, hbody, hcs, hasked, hwhere, -, -, hsame, -⟩ :=
    condition_exact hread nofun hs
  rw [htext] at hbody
  subst hbody
  have hlength : asked.length = 2 := hasked.length_eq.symm
  refine ⟨s, cs, asked, hs, hread, hcs, ?_, hlength, hsame _ hpruned⟩
  rw [hwhere, if_neg (List.ne_nil_of_length_eq_add_one hlength)]

end Query

end SqlGateway
