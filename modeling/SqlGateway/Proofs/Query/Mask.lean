import SqlGateway.Proofs.Query.Wording

/-! A query is masked by putting one value in the place of all that it binds:

        UPDATE t SET a = 1, b = null WHERE c = 'x' AND d IS NULL
                         ▼      ▼              ▼
                        mask   mask           mask

    Masks go with every check and with every piece of a draft, and no fragment shows a value in its
    text; so a query and its mask have the same text, or are rejected alike. -/

namespace SqlGateway

open Statement Draft

/-- The value in the place of all others. -/
def Value.mask : Value := .bool true

namespace ColumnRef

/-- A written column with the mask for its value. -/
def maskWritten (c : ColumnRef) : ColumnRef := { c with value := some Value.mask }

/-- A where entry with the mask for what it binds. -/
def maskFilter (c : ColumnRef) : ColumnRef :=
  { c with value := c.value.map fun v => if v.isNull then v else Value.mask }

end ColumnRef

/-- A query with the mask for every value that it binds. -/
def Query.masked (q : Query) : Query :=
  { q with
    columns := q.columns.map ColumnRef.maskWritten
    filters := q.filters.map ColumnRef.maskFilter }

def Test.masked : Test → Test
  | .isNull => .isNull
  | .equals _ => .equals Value.mask

def SelectPlan.masked (p : SelectPlan) : SelectPlan :=
  { p with filters := p.filters.map fun (c, t) => (c, t.masked) }

def Plan.masked : Plan → Plan
  | .select p => .select p.masked
  | .insert table cells => .insert table (cells.map fun (c, _) => (c, Value.mask))
  | .update table cells filters =>
    .update table (cells.map fun (c, _) => (c, Value.mask)) (filters.map fun (c, t) => (c, t.masked))
  | .delete table filters => .delete table (filters.map fun (c, t) => (c, t.masked))

def Fragment.masked : Fragment → Fragment
  | .argument _ => .argument Value.mask
  | f => f

/-! ### Plans of masked queries -/

section Except

variable {ε α β γ : Type}

theorem map_bind_eq (x : Except ε α) (f : α → Except ε β) (g : β → γ) :
    (x >>= f).map g = x >>= fun a => (f a).map g := by
  cases x <;> rfl

theorem bind_map_eq (x : Except ε α) (f : α → β) (g : β → Except ε γ) :
    x.map f >>= g = x >>= fun a => g (f a) := by
  cases x <;> rfl

theorem map_pure_eq (a : α) (f : α → β) : (pure a : Except ε α).map f = pure (f a) := rfl

/-- A list whose elements give changed results gives the list of these. -/
theorem mapM_map_eq {m : α → α} {f : α → Except ε β} {g : β → β}
    (h : ∀ a, f (m a) = (f a).map g) (as : List α) :
    (as.map m).mapM f = (as.mapM f).map (List.map g) := by
  induction as with
  | nil => rfl
  | cons a as ih =>
    simp only [List.map_cons, List.mapM_cons, h, ih, map_bind_eq, bind_map_eq, map_pure_eq]

end Except

namespace Plan

theorem filterTest_mask (c : ColumnRef) :
    filterTest c.maskFilter = (filterTest c).map (Option.map Test.masked) := by
  have ht : c.maskFilter.value.map Test.ofValue = (c.value.map Test.ofValue).map Test.masked := by
    rw [ColumnRef.maskFilter]
    cases c.value with
    | none => rfl
    | some v => cases v <;> rfl
  rw [filterTest, filterTest, ht]
  show (if c.aggregate.isSome then _ else _) = _
  cases c.aggregate <;> rfl

/-- Masks in the tests of where entries, under whatever name they go. -/
def maskTest {κ : Type} : Option (κ × Test) → Option (κ × Test) :=
  Option.map fun (c, t) => (c, t.masked)

theorem bindFilter_mask (joins : JoinPlan) (root : TableKey) (c : ColumnRef) :
    bindFilter joins root c.maskFilter = (bindFilter joins root c).map maskTest := by
  have hr : joins.resolve root c.maskFilter = joins.resolve root c := rfl
  have hn : c.maskFilter.name = c.name := rfl
  rw [bindFilter, bindFilter, filterTest_mask, hr, hn]
  simp only [map_bind_eq, bind_map_eq, map_pure_eq, maskTest, Option.map_map, Function.comp_def]

theorem filterMap_maskTest {κ : Type} (ts : List (Option (κ × Test))) :
    (ts.map maskTest).filterMap id = (ts.filterMap id).map fun (c, t) => (c, t.masked) := by
  rw [List.filterMap_map, List.map_filterMap]
  rfl

theorem ofSelect_masked (d : Dialect) (q : Query) :
    ofSelect d q.masked = (ofSelect d q).map SelectPlan.masked := by
  have hp (joins : JoinPlan) : q.masked.columns.mapM (project joins q.root d.maxIdentifierLength) =
      q.columns.mapM (project joins q.root d.maxIdentifierLength) := List.mapM_map ..
  have hf (joins : JoinPlan) : q.masked.filters.mapM (bindFilter joins q.root) =
      (q.filters.mapM (bindFilter joins q.root)).map (List.map maskTest) :=
    mapM_map_eq (bindFilter_mask joins q.root) q.filters
  have hc : q.masked.columns.isEmpty = q.columns.isEmpty := List.isEmpty_map
  have ht : q.masked.table = q.table := rfl
  have hr : q.masked.root = q.root := rfl
  have ho : q.masked.orderBy = q.orderBy := rfl
  rw [ofSelect, ofSelect, hc, ht, hr, ho]
  cases q.columns.isEmpty with
  | true => rfl
  | false =>
    simp only [hp, hf, map_bind_eq, bind_map_eq, map_pure_eq, filterMap_maskTest,
      Bool.false_eq_true, if_false]
    rfl

theorem checkSingleTable_masked (q : Query) : checkSingleTable q.masked = checkSingleTable q := by
  have hw (cs : List ColumnRef) : (cs.map ColumnRef.maskWritten).forM (checkWritten q) =
      cs.forM (checkWritten q) := List.forM_map ..
  have hf (cs : List ColumnRef) : (cs.map ColumnRef.maskFilter).forM (checkWritten q) =
      cs.forM (checkWritten q) := List.forM_map ..
  have hc : (q.masked.columns ++ q.masked.filters).forM (checkWritten q.masked) =
      (q.columns ++ q.filters).forM (checkWritten q) :=
    calc (q.columns.map ColumnRef.maskWritten ++ q.filters.map ColumnRef.maskFilter).forM
          (checkWritten q)
        = (do (q.columns.map ColumnRef.maskWritten).forM (checkWritten q)
              (q.filters.map ColumnRef.maskFilter).forM (checkWritten q)) := List.forM_append
      _ = (do q.columns.forM (checkWritten q); q.filters.forM (checkWritten q)) := by rw [hw, hf]
      _ = (q.columns ++ q.filters).forM (checkWritten q) := List.forM_append.symm
  rw [checkSingleTable, checkSingleTable, hc]
  rfl

theorem bindWriteFilter_mask (c : ColumnRef) :
    bindWriteFilter c.maskFilter = (bindWriteFilter c).map maskTest := by
  have hn : c.maskFilter.name = c.name := rfl
  rw [bindWriteFilter, bindWriteFilter, filterTest_mask, hn]
  simp only [map_bind_eq, bind_map_eq, map_pure_eq, maskTest, Option.map_map, Function.comp_def]

theorem writeFilters_masked (q : Query) :
    writeFilters q.masked = (writeFilters q).map (List.map fun (c, t) => (c, t.masked)) := by
  have hf : q.masked.filters.mapM bindWriteFilter =
      (q.filters.mapM bindWriteFilter).map (List.map maskTest) :=
    mapM_map_eq bindWriteFilter_mask q.filters
  show (q.masked.filters.mapM bindWriteFilter >>= _) =
    (q.filters.mapM bindWriteFilter >>= _).map _
  rw [hf, bind_map_eq, map_bind_eq]
  have ha : q.masked.allowUnfiltered = q.allowUnfiltered := rfl
  refine bind_congr fun ts => ?_
  simp only [filterMap_maskTest, List.isEmpty_map, ha]
  split <;> rfl

/-- The plan of a masked query is the plan of the query masked, and it is rejected alike. -/
theorem ofQuery_masked (d : Dialect) (q : Query) :
    ofQuery d q.masked = (ofQuery d q).map masked := by
  have hc : q.masked.columns.isEmpty = q.columns.isEmpty := List.isEmpty_map
  have hf : q.masked.filters.isEmpty = q.filters.isEmpty := List.isEmpty_map
  have hk : q.masked.kind = q.kind := rfl
  have hv : cells q.masked.columns = (cells q.columns).map fun (c, _) => (c, Value.mask) := by
    rw [cells, cells, Query.masked, List.map_map, List.map_map]
    rfl
  rw [ofQuery, ofQuery, hk]
  cases q.kind with
  | select => simp only [ofSelect_masked, map_bind_eq, bind_map_eq, map_pure_eq, masked]
  | insert =>
    simp only [checkSingleTable_masked, hc, hf, hv, map_bind_eq]
    refine bind_congr fun _ => ?_
    cases q.columns.isEmpty <;> cases q.filters.isEmpty <;> rfl
  | update =>
    simp only [checkSingleTable_masked, hc, hv, writeFilters_masked, map_bind_eq]
    refine bind_congr fun _ => ?_
    cases q.columns.isEmpty with
    | true => rfl
    | false =>
      simp only [bind_map_eq, map_bind_eq, map_pure_eq, masked, Bool.false_eq_true, if_false]
      rfl
  | delete =>
    simp only [checkSingleTable_masked, hc, writeFilters_masked, map_bind_eq]
    refine bind_congr fun _ => ?_
    cases q.columns.isEmpty with
    | true =>
      simp only [bind_map_eq, map_bind_eq, map_pure_eq, masked, Bool.not_true, Bool.false_eq_true,
        if_false]
      rfl
    | false => rfl

end Plan

/-! ### Drafts of masked plans -/

namespace Draft

/-- No text shows the value of an argument. -/
theorem texts_masked (d : Dialect) (n : Nat) (draft : Draft) :
    texts d n (draft.map Fragment.masked) = texts d n draft := by
  induction draft generalizing n with
  | nil => rfl
  | cons f rest ih =>
    cases f with
    | text sql => exact congrArg (sql :: ·) (ih n)
    | identifier name => exact congrArg (d.quote name :: ·) (ih n)
    | argument v => exact congrArg (d.placeholder (n + 1) :: ·) (ih (n + 1))

theorem arguments_eq_nil_iff {draft : Draft} :
    arguments draft = [] ↔ ∀ v, .argument v ∉ holes draft := by
  rw [arguments_eq_holes, List.filterMap_eq_nil_iff]
  constructor
  · intro h v hv
    simpa [Fragment.argument?] using h _ hv
  · intro h f hf
    cases f with
    | argument v => exact absurd hf (h v)
    | _ => rfl

/-- A draft without arguments has nothing to mask. -/
theorem map_masked_of_arguments {draft : Draft} (h : arguments draft = []) :
    draft.map Fragment.masked = draft := by
  induction draft with
  | nil => rfl
  | cons f rest ih =>
    cases f with
    | text sql => exact congrArg (.text sql :: ·) (ih h)
    | identifier name => exact congrArg (.identifier name :: ·) (ih h)
    | argument v => simp [arguments] at h

end Draft

namespace Plan

theorem map_masked_where {κ : Type} {front : κ → Draft} (h : ∀ k, arguments (front k) = [])
    (ts : List (κ × Test)) :
    (whereDraft (ts.map fun (k, t) => testDraft (front k) t)).map Fragment.masked =
      whereDraft ((ts.map fun (k, t) => (k, t.masked)).map
        fun (k, t) => testDraft (front k) t) := by
  cases ts with
  | nil => rfl
  | cons t ts =>
    have ht : (fun (k, t) => testDraft (front k) t) ∘ (fun (k, t) => (k, t.masked)) =
        List.map Fragment.masked ∘ fun (k, t) => testDraft (front k) t := by
      funext (k, t)
      have hk : (front k).map Fragment.masked = front k := map_masked_of_arguments (h k)
      cases t <;> simp [Test.masked, testDraft, Fragment.masked, hk]
    have hs : Fragment.masked (.text " AND ") = .text " AND " := rfl
    rw [List.map_map, ht, whereDraft, whereDraft, ← List.map_map]
    exact congrArg (.text " WHERE " :: ·) (map_separated hs _)

/-- A read before its condition. -/
def frontDraft (p : SelectPlan) : Draft :=
  .text "SELECT " :: separated ", " (p.projections.map projectionDraft) ++
    [.text " FROM ", .identifier p.table, .text " ", .identifier p.aliasName] ++
    p.joins.flatMap joinDraft

/-- A read behind its condition. -/
def backDraft (d : Dialect) (p : SelectPlan) : Draft :=
  groupDraft p.groupKeys ++ (sortDraft p.sortKeys ++ windowDraft d p.limit p.offset)

theorem selectDraft_eq (d : Dialect) (p : SelectPlan) : selectDraft d p = frontDraft p ++
    (whereDraft (p.filters.map fun (c, t) => testDraft (qualified c.aliasName c.column) t) ++
      backDraft d p) := by
  simp only [selectDraft, frontDraft, backDraft, List.append_assoc]

theorem arguments_frontDraft (p : SelectPlan) : arguments (frontDraft p) = [] := by
  simp [arguments_eq_nil_iff, frontDraft, List.flatMap_map, qualifiedHoles]

theorem arguments_backDraft (d : Dialect) (p : SelectPlan) : arguments (backDraft d p) = [] := by
  simp [arguments_eq_nil_iff, backDraft, qualifiedHoles]

/-- Masks go with the wording of a plan. -/
theorem draft_masked (d : Dialect) (p : Plan) :
    p.masked.draft d = (p.draft d).map Fragment.masked := by
  have hw (ts : List (String × Test)) : writeWhereDraft (ts.map fun (c, t) => (c, t.masked)) =
      (writeWhereDraft ts).map Fragment.masked := by
    have hc (c : String) : arguments [.identifier c] = [] := rfl
    exact (map_masked_where hc ts).symm
  cases p with
  | select p =>
    have hq (c : Qualified) : arguments (qualified c.aliasName c.column) = [] := rfl
    have hf : frontDraft p.masked = frontDraft p := rfl
    have hb : backDraft d p.masked = backDraft d p := rfl
    show selectDraft d p.masked = (selectDraft d p).map Fragment.masked
    rw [selectDraft_eq, selectDraft_eq, hf, hb, List.map_append, List.map_append,
      map_masked_of_arguments (arguments_frontDraft p),
      map_masked_of_arguments (arguments_backDraft d p), map_masked_where hq]
    rfl
  | insert table cells =>
    have hs : Fragment.masked (.text ",") = .text "," := rfl
    simp only [masked, draft, List.map_append, map_separated hs, List.map_map]
    rfl
  | update table cells filters =>
    have hs : Fragment.masked (.text ", ") = .text ", " := rfl
    simp only [masked, draft, List.map_append, map_separated hs, List.map_map, hw]
    rfl
  | delete table filters =>
    rw [masked, draft, draft, hw]
    rfl

end Plan

namespace Query

/-- The text of a query, or why it has none, does not depend on the values that it binds. -/
theorem compile_masked (d : Dialect) (q : Query) :
    (q.masked.compile d).map Statement.sql = (q.compile d).map Statement.sql := by
  have ht (p : Plan) : (p.masked.statement d).sql = (p.statement d).sql := by
    rw [Plan.statement, Plan.statement, Plan.draft_masked, render, render, texts_masked]
  rw [compile, compile, Plan.ofQuery_masked]
  cases Plan.ofQuery d q with
  | error e => rfl
  | ok p => exact congrArg Except.ok (ht p)

end Query

end SqlGateway
