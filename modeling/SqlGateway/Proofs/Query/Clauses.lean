import SqlGateway.Proofs.Query.Wording
import SqlGateway.Proofs.Statement.Clause

/-! The clauses of plans:

        select    SELECT  FROM  (JOIN | LEFT JOIN | RIGHT JOIN) …  WHERE?  GROUP BY?  ORDER BY?
                  LIMIT?  OFFSET?
        insert    INSERT INTO  VALUES
        update    UPDATE  SET  WHERE?
        delete    DELETE FROM  WHERE?

    The statement of a plan is read as its clauses, if it projects or sets anything at all; a
    keyword without a body would run into the next one. -/

namespace SqlGateway

namespace Plan

open Statement Draft

/-! ### Parts of the pieces of a plan -/

def qualifiedParts (c : Qualified) : List Part :=
  [.identifier c.aliasName, .mark ".", .identifier c.column]

def expressionParts (e : Expression) : List Part :=
  match e.aggregate with
  | some f => .word f.name :: .mark "(" :: qualifiedParts e.target ++ [.mark ")"]
  | none => qualifiedParts e.target

def projectionParts (p : Projection) : List Part :=
  expressionParts p.expression ++ [.identifier p.label]

def joinTestParts (t : JoinTest) : List Part :=
  qualifiedParts t.left ++ .mark t.comparison.symbol :: qualifiedParts t.right

/-- A test of the column that `target` names. -/
def testParts (target : List Part) : Test → List Part
  | .isNull => target ++ [.word "IS", .word "NULL"]
  | .equals v => target ++ [.mark "=", .argument v]

def sortKeyParts (k : SortKey) : List Part :=
  expressionParts k.expression ++ (if k.descending then [.word "DESC"] else [])

/-- A cell that is set. -/
def cellParts (cell : String × Value) : List Part :=
  [.identifier cell.1, .mark "=", .argument cell.2]

def joinClause (j : JoinClause) : Clause :=
  ⟨j.kind.keyword, .identifier j.name :: .identifier j.aliasName :: .word "ON" ::
    [.word "AND"].intercalate (j.tests.map joinTestParts)⟩

/-- A clause of items, if there are any. -/
def listClause (head : String) (separator : Part) (items : List (List Part)) : List Clause :=
  if items.isEmpty then [] else [⟨head, [separator].intercalate items⟩]

/-- Text of the limit, if there is one. -/
def limitText? (d : Dialect) (limit offset : Option UInt64) : Option String :=
  match limit, offset with
  | some n, _ => some (Number.natText n.toNat)
  | none, some _ => d.unboundedLimit
  | none, none => none

def windowClauses (d : Dialect) (limit offset : Option UInt64) : List Clause :=
  ((limitText? d limit offset).toList.map fun t => ⟨"LIMIT", [.number t]⟩) ++
    offset.toList.map fun n => ⟨"OFFSET", [.number (Number.natText n.toNat)]⟩

/-- What follows the tables of a select. -/
def selectEnd (d : Dialect) (p : SelectPlan) : List Clause :=
  listClause "WHERE" (.word "AND") (p.filters.map fun (c, t) => testParts (qualifiedParts c) t) ++
    (listClause "GROUP BY" (.mark ",") (p.groupKeys.map qualifiedParts) ++
    (listClause "ORDER BY" (.mark ",") (p.sortKeys.map sortKeyParts) ++
      windowClauses d p.limit p.offset))

def selectClauses (d : Dialect) (p : SelectPlan) : List Clause :=
  ⟨"SELECT", [.mark ","].intercalate (p.projections.map projectionParts)⟩ ::
    ⟨"FROM", [.identifier p.table, .identifier p.aliasName]⟩ ::
      (p.joins.map joinClause ++ selectEnd d p)

def writeWhereClause (filters : List (String × Test)) : List Clause :=
  listClause "WHERE" (.word "AND") (filters.map fun (c, t) => testParts [.identifier c] t)

/-- Items in brackets. -/
def bracketed (items : List (List Part)) : List Part :=
  .mark "(" :: [.mark ","].intercalate items ++ [.mark ")"]

/-- The clauses of the statement of a plan. -/
def clauses (d : Dialect) : Plan → List Clause
  | .select p => selectClauses d p
  | .insert table cells =>
    [⟨"INSERT INTO", .identifier table :: bracketed (cells.map fun (c, _) => [.identifier c])⟩,
      ⟨"VALUES", bracketed (cells.map fun (_, v) => [.argument v])⟩]
  | .update table cells filters =>
    ⟨"UPDATE", [.identifier table]⟩ :: ⟨"SET", [.mark ","].intercalate (cells.map cellParts)⟩ ::
      writeWhereClause filters
  | .delete table filters =>
    ⟨"DELETE FROM", [.identifier table]⟩ :: writeWhereClause filters

/-- No more tables follow those of a select. -/
theorem head_mem_of_mem_selectEnd {d : Dialect} {p : SelectPlan} {c : Clause}
    (h : c ∈ selectEnd d p) :
    c.head ∈ ["WHERE", "GROUP BY", "ORDER BY", "LIMIT", "OFFSET"] := by
  have hl {head : String} {separator : Part} {items : List (List Part)}
      (h : c ∈ listClause head separator items) : c.head = head := by
    rw [listClause] at h
    split at h
    · nomatch h
    · rw [List.mem_singleton.mp h]
  simp only [selectEnd, windowClauses, List.mem_append, List.mem_map] at h
  rcases h with h | h | h | ⟨_, -, rfl⟩ | ⟨_, -, rfl⟩
  · simp [hl h]
  · simp [hl h]
  · simp [hl h]
  · simp
  · simp

/-! ### Phrases -/

section Phrases

variable (d : Dialect)

@[simp] theorem parts_marks : Fragment.parts d (.text " ") = [] ∧
    Fragment.parts d (.text ".") = [.mark "."] ∧ Fragment.parts d (.text ",") = [.mark ","] ∧
    Fragment.parts d (.text ", ") = [.mark ","] ∧ Fragment.parts d (.text "(") = [.mark "("] ∧
    Fragment.parts d (.text " (") = [.mark "("] ∧ Fragment.parts d (.text ")") = [.mark ")"] ∧
    Fragment.parts d (.text ") VALUES (") = [.mark ")", .word "VALUES", .mark "("] ∧
    Fragment.parts d (.text " = ") = [.mark "="] := by
  cases d <;> decide

@[simp] theorem parts_words :
    Fragment.parts d (.text "SELECT ") = [.word "SELECT"] ∧
    Fragment.parts d (.text " FROM ") = [.word "FROM"] ∧
    Fragment.parts d (.text " ON ") = [.word "ON"] ∧
    Fragment.parts d (.text " AND ") = [.word "AND"] ∧
    Fragment.parts d (.text " WHERE ") = [.word "WHERE"] ∧
    Fragment.parts d (.text " IS NULL") = [.word "IS", .word "NULL"] ∧
    Fragment.parts d (.text " GROUP BY ") = [.word "GROUP", .word "BY"] ∧
    Fragment.parts d (.text " ORDER BY ") = [.word "ORDER", .word "BY"] ∧
    Fragment.parts d (.text " DESC") = [.word "DESC"] ∧
    Fragment.parts d (.text " LIMIT ") = [.word "LIMIT"] ∧
    Fragment.parts d (.text " OFFSET ") = [.word "OFFSET"] ∧
    Fragment.parts d (.text "INSERT INTO ") = [.word "INSERT", .word "INTO"] ∧
    Fragment.parts d (.text "UPDATE ") = [.word "UPDATE"] ∧
    Fragment.parts d (.text " SET ") = [.word "SET"] ∧
    Fragment.parts d (.text "DELETE FROM ") = [.word "DELETE", .word "FROM"] := by
  cases d <;> decide

@[simp] theorem parts_symbol (c : Comparison) :
    Fragment.parts d (.text c.symbol) = [.mark c.symbol] := by
  cases d <;> cases c <;> decide

@[simp] theorem parts_aggregate (f : Aggregate) :
    Fragment.parts d (.text f.name) = [.word f.name] := by
  cases d <;> cases f <;> decide

theorem parts_integer {s : String} (h : IsInteger s) :
    Fragment.parts d (.text s) = [.number s] := by
  rw [Fragment.parts, read_integer d h]
  rfl

end Phrases

/-! ### Pieces -/

section Pieces

variable {d : Dialect}

@[simp] theorem parts_identifier (name : String) :
    Fragment.parts d (.identifier name) = [.identifier name] := rfl

@[simp] theorem parts_argument (v : Value) : Fragment.parts d (.argument v) = [.argument v] := rfl

@[simp] theorem parts_qualified (aliasName column : String) :
    parts d (qualified aliasName column) = qualifiedParts ⟨aliasName, column⟩ := by
  simp [qualified, qualifiedParts]

@[simp] theorem parts_expression (e : Expression) :
    parts d (expressionDraft e) = expressionParts e := by
  rw [expressionDraft, expressionParts]
  cases e.aggregate <;> simp

@[simp] theorem parts_projection (p : Projection) :
    parts d (projectionDraft p) = projectionParts p := by
  simp [projectionDraft, projectionParts]

@[simp] theorem parts_joinTest (t : JoinTest) : parts d (joinTestDraft t) = joinTestParts t := by
  simp [joinTestDraft, joinTestParts]

@[simp] theorem parts_test (target : Draft) (t : Test) :
    parts d (testDraft target t) = testParts (parts d target) t := by
  cases t <;> simp [testDraft, testParts]

@[simp] theorem parts_sortKey (k : SortKey) : parts d (sortKeyDraft k) = sortKeyParts k := by
  rw [sortKeyDraft, sortKeyParts]
  cases k.descending <;> simp

theorem isItem_qualified (c : Qualified) : IsItem (qualifiedParts c) :=
  .cons ((IsBody.nil.cons rfl).cons rfl) rfl

theorem isItem_expression (e : Expression) : IsItem (expressionParts e) := by
  have hf (f : Aggregate) : (Part.word f.name).opener? = none := by cases f <;> decide
  have hm : IsBody [.mark ")"] := IsBody.nil.cons rfl
  rw [expressionParts]
  cases e.aggregate with
  | none => exact isItem_qualified _
  | some f => exact .cons (((isItem_qualified _).isBody.append hm).cons rfl) (hf f)

theorem isItem_projection (p : Projection) : IsItem (projectionParts p) :=
  (isItem_expression _).append (IsBody.nil.cons rfl)

theorem isItem_joinTest (t : JoinTest) : IsItem (joinTestParts t) :=
  (isItem_qualified _).append ((isItem_qualified _).isBody.cons rfl)

theorem isItem_test {target : List Part} (h : IsItem target) (t : Test) :
    IsItem (testParts target t) := by
  cases t with
  | isNull => exact h.append ((IsBody.nil.cons (by decide)).cons (by decide))
  | equals v => exact h.append ((IsBody.nil.cons rfl).cons rfl)

theorem isItem_sortKey (k : SortKey) : IsItem (sortKeyParts k) := by
  refine (isItem_expression _).append ?_
  cases k.descending with
  | false => exact IsBody.nil
  | true => exact IsBody.nil.cons (by decide)

theorem isItem_bracketed {items : List (List Part)} (h : ∀ item ∈ items, IsBody item) :
    IsItem (bracketed items) :=
  .cons ((IsBody.intercalate rfl h).append (IsBody.nil.cons rfl)) rfl

theorem isItem_cell (cell : String × Value) : IsItem (cellParts cell) :=
  .cons ((IsBody.nil.cons rfl).cons rfl) rfl

end Pieces

/-! ### Clauses -/

section Clauses

variable {d : Dialect}

/-- A text with the words that open a clause. -/
def OpensClause (d : Dialect) (opening head : String) : Prop :=
  ∀ body, IsItem body → Cuts (Fragment.parts d (.text opening) ++ body) [⟨head, body⟩]

theorem OpensClause.word {opening word : String}
    (h : Fragment.parts d (.text opening) = [.word word]) (hw : openers.contains word = true) :
    OpensClause d opening word := by
  intro body hb
  rw [h]
  exact Cuts.clause hw hb

theorem OpensClause.words {opening head word next : String}
    (h : Fragment.parts d (.text opening) = [.word word, .word next])
    (hw : openers.contains word = true) (hn : openers.contains next = true)
    (hh : head = word ++ " " ++ next) : OpensClause d opening head := by
  intro body hb
  rw [h, hh]
  exact (Cuts.clause hn hb).cons hw

theorem opensClause_keyword (kind : JoinKind) : OpensClause d kind.keyword kind.keyword := by
  cases kind with
  | inner =>
    have h : Fragment.parts d (.text "JOIN") = [.word "JOIN"] := by cases d <;> decide
    exact .word h rfl
  | left =>
    have h : Fragment.parts d (.text "LEFT JOIN") = [.word "LEFT", .word "JOIN"] := by
      cases d <;> decide
    exact .words h rfl rfl (by decide)
  | right =>
    have h : Fragment.parts d (.text "RIGHT JOIN") = [.word "RIGHT", .word "JOIN"] := by
      cases d <;> decide
    exact .words h rfl rfl (by decide)

section Lists

variable {α : Type} {f : α → Draft} {g : α → List Part} {opening separator head : String} {p : Part}

theorem parts_list (hs : Fragment.parts d (.text separator) = [p])
    (hg : ∀ a, parts d (f a) = g a) (as : List α) :
    parts d (separated separator (as.map f)) = [p].intercalate (as.map g) := by
  rw [parts_separated hs, List.map_map]
  exact congrArg _ (List.map_congr_left fun a _ => hg a)

/-- Items between separators are a clause, if there are any. -/
theorem cuts_items (ho : OpensClause d opening head)
    (hs : Fragment.parts d (.text separator) = [p]) (hp : p.opener? = none)
    (hg : ∀ a, parts d (f a) = g a) (hb : ∀ a, IsItem (g a)) {as : List α} (hn : as ≠ []) :
    Cuts (parts d (.text opening :: separated separator (as.map f)))
      [⟨head, [p].intercalate (as.map g)⟩] := by
  rw [parts_cons, parts_list hs hg]
  refine ho _ (IsItem.intercalate hp (by simpa using hn) ?_)
  exact List.forall_mem_map.mpr fun a _ => hb a

theorem cuts_list (ho : OpensClause d opening head)
    (hs : Fragment.parts d (.text separator) = [p]) (hp : p.opener? = none)
    (hg : ∀ a, parts d (f a) = g a) (hb : ∀ a, IsItem (g a)) (as : List α) :
    Cuts (parts d (if as.isEmpty then [] else .text opening :: separated separator (as.map f)))
      (listClause head p (as.map g)) := by
  rw [listClause]
  cases as with
  | nil => exact Cuts.nil
  | cons a as => exact cuts_items ho hs hp hg hb (List.cons_ne_nil _ _)

/-- The condition of a statement. -/
theorem cuts_where (hg : ∀ a, parts d (f a) = g a) (hb : ∀ a, IsItem (g a)) (as : List α) :
    Cuts (parts d (whereDraft (as.map f))) (listClause "WHERE" (.word "AND") (as.map g)) := by
  have ho : OpensClause d " WHERE " "WHERE" := .word (by simp) rfl
  have hs : Fragment.parts d (.text " AND ") = [.word "AND"] := by simp
  rw [whereDraft, List.isEmpty_map]
  exact cuts_list ho hs rfl hg hb as

end Lists

theorem cuts_join (j : JoinClause) : Cuts (parts d (joinDraft j)) [joinClause j] := by
  have hs : IsBody ([.word "AND"].intercalate (j.tests.map joinTestParts)) :=
    IsBody.intercalate rfl (List.forall_mem_map.mpr fun t _ => (isItem_joinTest t).isBody)
  have hp : parts d (joinDraft j) =
      Fragment.parts d (.text j.kind.keyword) ++ (joinClause j).body := by
    simp [joinDraft, joinClause, parts_list (parts_words d).2.2.2.1 parts_joinTest]
  rw [hp]
  exact opensClause_keyword j.kind _ (.cons ((hs.cons rfl).cons rfl) rfl)

theorem cuts_writeWhere (filters : List (String × Test)) :
    Cuts (parts d (writeWhereDraft filters)) (writeWhereClause filters) :=
  cuts_where (fun _ => by simp) (fun _ => isItem_test (.cons IsBody.nil rfl) _) filters

theorem cuts_group (keys : List Qualified) : Cuts (parts d (groupDraft keys))
    (listClause "GROUP BY" (.mark ",") (keys.map qualifiedParts)) := by
  have ho : Fragment.parts d (.text " GROUP BY ") = [.word "GROUP", .word "BY"] := by simp
  have hs : Fragment.parts d (.text ", ") = [.mark ","] := by simp
  exact cuts_list (.words ho rfl rfl (by decide)) hs rfl (fun _ => by simp) isItem_qualified keys

theorem cuts_sort (keys : List SortKey) : Cuts (parts d (sortDraft keys))
    (listClause "ORDER BY" (.mark ",") (keys.map sortKeyParts)) := by
  have ho : Fragment.parts d (.text " ORDER BY ") = [.word "ORDER", .word "BY"] := by simp
  have hs : Fragment.parts d (.text ", ") = [.mark ","] := by simp
  exact cuts_list (.words ho rfl rfl (by decide)) hs rfl parts_sortKey isItem_sortKey keys

theorem cuts_number {opening head text : String} (ho : OpensClause d opening head)
    (h : IsInteger text) : Cuts (parts d [.text opening, .text text]) [⟨head, [.number text]⟩] := by
  have hp : parts d [.text opening, .text text] =
      Fragment.parts d (.text opening) ++ [.number text] := by
    simp [parts_integer d h]
  rw [hp]
  exact ho _ (.cons IsBody.nil rfl)

theorem cuts_window (limit offset : Option UInt64) :
    Cuts (parts d (windowDraft d limit offset)) (windowClauses d limit offset) := by
  have hn (n : UInt64) : IsInteger (Number.natText n.toNat) := Or.inr ⟨_, rfl⟩
  have hl {text : String} (h : IsInteger text) :
      Cuts (parts d [.text " LIMIT ", .text text]) [⟨"LIMIT", [.number text]⟩] :=
    cuts_number (.word (by simp) rfl) h
  have ho (n : UInt64) : Cuts (parts d [.text " OFFSET ", .text (Number.natText n.toNat)])
      [⟨"OFFSET", [.number (Number.natText n.toNat)]⟩] :=
    cuts_number (.word (by simp) rfl) (hn n)
  unfold windowDraft windowClauses
  rw [parts_append]
  refine Cuts.append ?_ ?_
  · cases limit with
    | some n => exact hl (hn n)
    | none =>
      cases offset with
      | none => exact Cuts.nil
      | some m =>
        cases hd : d.unboundedLimit with
        | none => simpa [limitText?, hd] using Cuts.nil
        | some all =>
          have hm : all ∈ windowIntegers d none (some m) := by simp [windowIntegers, hd]
          simpa [limitText?, hd] using hl (isInteger_of_mem_windowIntegers all hm)
  · cases offset with
    | none => exact Cuts.nil
    | some n => exact ho n

theorem cuts_select {p : SelectPlan} (h : p.projections ≠ []) :
    Cuts (parts d (selectDraft d p)) (selectClauses d p) := by
  have hp : Cuts (parts d (.text "SELECT " :: separated ", " (p.projections.map projectionDraft)))
      [⟨"SELECT", [.mark ","].intercalate (p.projections.map projectionParts)⟩] :=
    cuts_items (.word (by simp) rfl) (by simp) rfl parts_projection isItem_projection h
  have hf : Cuts (parts d [.text " FROM ", .identifier p.table, .text " ", .identifier p.aliasName])
      [⟨"FROM", [.identifier p.table, .identifier p.aliasName]⟩] := by
    simpa using Cuts.clause rfl (.cons (IsBody.nil.cons rfl) rfl)
  have hw : Cuts (parts d (whereDraft (p.filters.map fun (c, t) =>
      testDraft (qualified c.aliasName c.column) t)))
      (listClause "WHERE" (.word "AND")
        (p.filters.map fun (c, t) => testParts (qualifiedParts c) t)) :=
    cuts_where (fun _ => by simp) (fun _ => isItem_test (isItem_qualified _) _) p.filters
  have hj : Cuts (parts d (p.joins.flatMap joinDraft)) (p.joins.map joinClause) := by
    rw [parts_flatMap]
    exact Cuts.flatMap cuts_join p.joins
  -- what may be missing leaves no clause, so the rest is put together without a case for each part
  rw [selectDraft]
  simp only [parts_append, List.append_assoc]
  exact hp.append (hf.append (hj.append (hw.append ((cuts_group _).append ((cuts_sort _).append
    (cuts_window _ _))))))

/-- A plan that has something to project or to set. -/
def HasContent : Plan → Prop
  | .select p => p.projections ≠ []
  | .update _ cells _ => cells ≠ []
  | _ => True

theorem cuts_draft {p : Plan} (h : p.HasContent) : Cuts (parts d (p.draft d)) (p.clauses d) := by
  cases p with
  | select p => exact cuts_select h
  | insert table cells =>
    have ho : Fragment.parts d (.text "INSERT INTO ") = [.word "INSERT", .word "INTO"] := by simp
    have hi : OpensClause d "INSERT INTO " "INSERT INTO" := .words ho rfl rfl (by decide)
    have hs : Fragment.parts d (.text ",") = [.mark ","] := by simp
    have hc : IsItem (bracketed (cells.map fun (c, _) => [.identifier c])) :=
      isItem_bracketed (List.forall_mem_map.mpr fun _ _ => IsBody.nil.cons rfl)
    have hv : IsItem (bracketed (cells.map fun (_, v) => [.argument v])) :=
      isItem_bracketed (List.forall_mem_map.mpr fun _ _ => IsBody.nil.cons rfl)
    have hp : parts d ((insert table cells).draft d) = (Fragment.parts d (.text "INSERT INTO ") ++
        .identifier table :: bracketed (cells.map fun (c, _) => [.identifier c])) ++
          .word "VALUES" :: bracketed (cells.map fun (_, v) => [.argument v]) := by
      simp only [draft, bracketed, parts_append, parts_list hs (fun _ => rfl)]
      simp
    rw [hp]
    exact (hi _ (.cons hc.isBody rfl)).append (Cuts.clause rfl hv)
  | update table cells filters =>
    have hu : OpensClause d "UPDATE " "UPDATE" := .word (by simp) rfl
    have hs : OpensClause d " SET " "SET" := .word (by simp) rfl
    have hc : Cuts (parts d (.text " SET " :: separated ", "
        (cells.map fun (c, v) => [.identifier c, .text " = ", .argument v])))
        [⟨"SET", [.mark ","].intercalate (cells.map cellParts)⟩] :=
      cuts_items hs (by simp) rfl (fun _ => by simp [cellParts]) isItem_cell h
    have hp : parts d ((update table cells filters).draft d) =
        (Fragment.parts d (.text "UPDATE ") ++ [.identifier table]) ++
          (parts d (.text " SET " :: separated ", "
            (cells.map fun (c, v) => [.identifier c, .text " = ", .argument v])) ++
          parts d (writeWhereDraft filters)) := by
      simp [draft]
    rw [hp]
    exact (hu _ (.cons IsBody.nil rfl)).append (hc.append (cuts_writeWhere filters))
  | delete table filters =>
    have ho : Fragment.parts d (.text "DELETE FROM ") = [.word "DELETE", .word "FROM"] := by simp
    have hd : OpensClause d "DELETE FROM " "DELETE FROM" := .words ho rfl rfl (by decide)
    rw [draft, parts_append]
    exact (hd [.identifier table] (.cons IsBody.nil rfl)).append (cuts_writeWhere filters)

end Clauses

end Plan

namespace Query

variable {d : Dialect} {q : Query} {s : Statement}

theorem IsSound.hasContent (h : q.IsSound d) : q.plan.HasContent := by
  rw [IsSound] at h
  rw [plan]
  cases hk : q.kind with
  | select =>
    rw [hk] at h
    simpa [Plan.HasContent, selectPlan] using h.columns_ne
  | insert => trivial
  | update =>
    rw [hk] at h
    simpa [Plan.HasContent, Plan.cells] using h.2.1
  | delete => trivial

/-- The statement of a query is read as the clauses of its plan. -/
theorem clauses?_compile (h : q.compile d = .ok s) : s.clauses? d = some (q.plan.clauses d) := by
  obtain ⟨hs, rfl⟩ := compile_eq_ok_iff.mp h
  have hp : (q.plan.statement d).parts? d = some (Draft.parts d (q.plan.draft d)) := by
    rw [Statement.parts?, Plan.tokens?_statement, Option.bind_some]
    exact Draft.attach_tokens Plan.isInteger_of_mem_integers 0 (Plan.sound_draft d q.plan)
  rw [Statement.clauses?, hp, Option.bind_some, (Plan.cuts_draft hs.hasContent).cut_eq]

end Query

end SqlGateway
