import SqlGateway.Proofs.Query.Clauses

/-! What a statement keeps of a query. The normal form of a query leaves out what has no part in the
    statement: labels, filters without a value, how a table was referred to, values that stand
    outside of filters and cells. It can be read from the clauses of the statement alone:

        FROM       t t1                          table and alias
        LEFT JOIN  u u ON t1 . a = u . b         kind, name, alias and conditions
        WHERE      t1 . c IS NULL AND …          tests, their values put in from the arguments
        LIMIT      18446744073709551615          limit

    so queries with one statement have one normal form. -/

namespace SqlGateway

open Statement

/-- What a select keeps of its query. -/
structure SelectForm where
  table : String
  aliasName : String
  joins : List JoinClause
  projections : List Expression
  filters : List (Qualified × Test)
  sortKeys : List SortKey
  limit : Option UInt64
  offset : Option UInt64
  deriving DecidableEq, Repr

/-- What a statement keeps of its query. -/
inductive NormalForm where
  | select (form : SelectForm)
  | insert (table : String) (cells : List (String × Value))
  | update (table : String) (cells : List (String × Value)) (filters : List (String × Test))
  | delete (table : String) (filters : List (String × Test))
  deriving DecidableEq, Repr

/-- The limit of a window; on MySQL an offset alone counts as one with the largest limit. -/
def Dialect.windowLimit (d : Dialect) (limit offset : Option UInt64) : Option UInt64 :=
  if d = .mysql ∧ limit = none ∧ offset ≠ none then some 18446744073709551615 else limit

def Query.normalForm (d : Dialect) (q : Query) : NormalForm :=
  match q.kind with
  | .select => .select {
      table := q.table.name
      aliasName := q.table.aliasName
      joins := q.table.levelOrder.map (·.clause q.root)
      projections := q.columns.map (·.expression q.root)
      filters := q.tests
      sortKeys := q.orderBy.map (·.sortKey q.root)
      limit := d.windowLimit q.limit q.offset
      offset := q.offset }
  | .insert => .insert q.table.name (Plan.cells q.columns)
  | .update => .update q.table.name (Plan.cells q.columns) q.writeTests
  | .delete => .delete q.table.name q.writeTests

/-! ### Decoding -/

namespace NormalForm

/-- Items of a body. -/
def items (separator : Part) (body : List Part) : List (List Part) :=
  if body.isEmpty then [] else body.splitOn separator

/-- Bodies of the clauses with a head. -/
def bodies (head : String) (cs : List Clause) : List (List Part) :=
  (cs.filter (·.head == head)).map Clause.body

/-- Items of the clauses with a head. -/
def itemsOf (head : String) (separator : Part) (cs : List Clause) : List (List Part) :=
  (bodies head cs).flatMap (items separator)

def aggregate? (name : String) : Option Aggregate :=
  [Aggregate.count, .sum, .avg, .min, .max].find? (·.name == name)

def comparison? (symbol : String) : Option Comparison :=
  [Comparison.eq, .ne, .lt, .le, .gt, .ge].find? (·.symbol == symbol)

def joinKind? (keyword : String) : Option JoinKind :=
  [JoinKind.inner, .left, .right].find? (·.keyword == keyword)

def qualified? : List Part → Option Qualified
  | [.identifier aliasName, .mark ".", .identifier column] => some ⟨aliasName, column⟩
  | _ => none

def expression? : List Part → Option Expression
  | .word f :: .mark "(" :: rest => do return ⟨← qualified? rest.dropLast, some (← aggregate? f)⟩
  | ps => do return ⟨← qualified? ps, none⟩

/-- An expression and its label. -/
def projection? (ps : List Part) : Option Expression := expression? ps.dropLast

def sortKey? (ps : List Part) : Option SortKey :=
  if ps.getLast? = some (.word "DESC") then do return ⟨← expression? ps.dropLast, true⟩
  else do return ⟨← expression? ps, false⟩

def joinTest? : List Part → Option JoinTest
  | [.identifier a, .mark ".", .identifier c, .mark symbol, .identifier a', .mark ".",
      .identifier c'] => do
    return ⟨⟨a, c⟩, ← comparison? symbol, ⟨a', c'⟩⟩
  | _ => none

def join? (c : Clause) : Option JoinClause :=
  match c.body with
  | .identifier name :: .identifier aliasName :: .word "ON" :: tests => do
    return ⟨← joinKind? c.head, name, aliasName, ← (items (.word "AND") tests).mapM joinTest?⟩
  | _ => none

/-- A test, the last two parts of which say what is asked of the target. -/
def test? {α : Type} (target? : List Part → Option α) (ps : List Part) : Option (α × Test) :=
  let n := ps.length - 2
  match ps.drop n with
  | [.mark "=", .argument v] => do return (← target? (ps.take n), .equals v)
  | [.word "IS", .word "NULL"] => do return (← target? (ps.take n), .isNull)
  | _ => none

def column? : List Part → Option String
  | [.identifier column] => some column
  | _ => none

def value? : List Part → Option Value
  | [.argument v] => some v
  | _ => none

def cell? : List Part → Option (String × Value)
  | [.identifier column, .mark "=", .argument v] => some (column, v)
  | _ => none

/-- The number that stands alone in a clause; a negative one is none. -/
def number? : List (List Part) → Option UInt64
  | [[.number text]] =>
    if text.toList.all Char.isDigit then some (UInt64.ofNat (Nat.ofDigitChars 10 text.toList 0))
    else none
  | _ => none

/-- What stands in brackets. -/
def unbracketed (ps : List Part) : List Part := ps.tail.dropLast

def select? (cs : List Clause) : Option SelectForm :=
  match bodies "FROM" cs with
  | [[.identifier table, .identifier aliasName]] => do
    return {
      table := table
      aliasName := aliasName
      joins := ← (cs.filter fun c => (joinKind? c.head).isSome).mapM join?
      projections := ← (itemsOf "SELECT" (.mark ",") cs).mapM projection?
      filters := ← (itemsOf "WHERE" (.word "AND") cs).mapM (test? qualified?)
      sortKeys := ← (itemsOf "ORDER BY" (.mark ",") cs).mapM sortKey?
      limit := number? (bodies "LIMIT" cs)
      offset := number? (bodies "OFFSET" cs) }
  | _ => none

def filters? (cs : List Clause) : Option (List (String × Test)) :=
  (itemsOf "WHERE" (.word "AND") cs).mapM (test? column?)

def ofClauses? (cs : List Clause) : Option NormalForm :=
  match cs with
  | [⟨"INSERT INTO", .identifier table :: columns⟩, ⟨"VALUES", values⟩] => do
    return .insert table ((← (items (.mark ",") (unbracketed columns)).mapM column?).zip
      (← (items (.mark ",") (unbracketed values)).mapM value?))
  | ⟨"UPDATE", [.identifier table]⟩ :: ⟨"SET", cells⟩ :: rest => do
    return .update table (← (items (.mark ",") cells).mapM cell?) (← filters? rest)
  | ⟨"DELETE FROM", [.identifier table]⟩ :: rest => do return .delete table (← filters? rest)
  | cs => do return .select (← select? cs)

end NormalForm

/-- The normal form that the text and the arguments of a statement tell. -/
def Statement.normalForm? (d : Dialect) (s : Statement) : Option NormalForm :=
  (s.clauses? d).bind NormalForm.ofClauses?

/-! ### Reading back -/

namespace NormalForm

open Plan

theorem mapM_map {α β γ : Type} {f : β → Option γ} {g : α → β} {k : α → γ}
    (h : ∀ a, f (g a) = some (k a)) (as : List α) : (as.map g).mapM f = some (as.map k) := by
  induction as with
  | nil => rfl
  | cons a as ih => simp [h, ih]

/-- An item that a separator does not fall into. -/
def IsApart (separator : Part) (item : List Part) : Prop := item ≠ [] ∧ separator ∉ item

theorem items_intercalate {separator : Part} {ls : List (List Part)}
    (h : ∀ l ∈ ls, IsApart separator l) : items separator ([separator].intercalate ls) = ls := by
  cases ls with
  | nil => rfl
  | cons l ls =>
    have hn : [separator].intercalate (l :: ls) ≠ [] := by
      cases ls <;> simp [List.intercalate_cons_cons, (h l List.mem_cons_self).1]
    rw [items, if_neg (by simpa using hn)]
    exact List.splitOn_intercalate separator (fun l hl => (h l hl).2) (List.cons_ne_nil _ _)

/-- What was written of each element of a list is read back of its items. -/
theorem mapM_items {α γ : Type} {separator : Part} {f : List Part → Option γ}
    {g : α → List Part} {k : α → γ} (hg : ∀ a, IsApart separator (g a))
    (h : ∀ a, f (g a) = some (k a)) (as : List α) :
    (items separator ([separator].intercalate (as.map g))).mapM f = some (as.map k) := by
  rw [items_intercalate (List.forall_mem_map.mpr fun a _ => hg a), mapM_map h]

@[simp] theorem aggregate?_name (f : Aggregate) : aggregate? f.name = some f := by
  cases f <;> decide

@[simp] theorem comparison?_symbol (c : Comparison) : comparison? c.symbol = some c := by
  cases c <;> decide

@[simp] theorem joinKind?_keyword (k : JoinKind) : joinKind? k.keyword = some k := by
  cases k <;> decide

@[simp] theorem qualified?_parts (c : Qualified) : qualified? (qualifiedParts c) = some c := rfl

@[simp] theorem expression?_parts (e : Expression) : expression? (expressionParts e) = some e := by
  obtain ⟨target, _ | f⟩ := e
  · rfl
  · simp [expressionParts, expression?]

@[simp] theorem projection?_parts (p : Projection) :
    projection? (projectionParts p) = some p.expression := by
  simp [projection?, projectionParts]

@[simp] theorem sortKey?_parts (k : SortKey) : sortKey? (sortKeyParts k) = some k := by
  obtain ⟨e, _ | _⟩ := k
  · have hl : (expressionParts e).getLast? ≠ some (.word "DESC") := by
      obtain ⟨target, _ | f⟩ := e <;> simp [expressionParts, qualifiedParts]
    simp [sortKey?, sortKeyParts, hl]
  · simp [sortKey?, sortKeyParts]

@[simp] theorem joinTest?_parts (t : JoinTest) : joinTest? (joinTestParts t) = some t := by
  simp [joinTestParts, qualifiedParts, joinTest?]

theorem column?_parts (column : String) : column? [.identifier column] = some column := rfl

theorem value?_parts (v : Value) : value? [.argument v] = some v := rfl

theorem cell?_parts (cell : String × Value) : cell? (cellParts cell) = some cell := rfl

theorem test?_parts {α : Type} {target? : List Part → Option α} {parts : α → List Part}
    (h : ∀ a, target? (parts a) = some a) (t : α × Test) :
    test? target? (testParts (parts t.1) t.2) = some t := by
  obtain ⟨a, _ | v⟩ := t <;> simp [testParts, test?, h]

theorem isApart_projection (p : Projection) : IsApart (.mark ",") (projectionParts p) := by
  obtain ⟨⟨target, _ | f⟩, label⟩ := p <;>
    simp [IsApart, projectionParts, expressionParts, qualifiedParts]

theorem isApart_sortKey (k : SortKey) : IsApart (.mark ",") (sortKeyParts k) := by
  obtain ⟨⟨target, _ | f⟩, _ | _⟩ := k <;>
    simp [IsApart, sortKeyParts, expressionParts, qualifiedParts]

theorem isApart_cell (cell : String × Value) : IsApart (.mark ",") (cellParts cell) := by
  simp [IsApart, cellParts]

theorem isApart_joinTest (t : JoinTest) : IsApart (.word "AND") (joinTestParts t) := by
  simp [IsApart, joinTestParts, qualifiedParts]

theorem isApart_test {target : List Part} (h : .word "AND" ∉ target) (t : Test) :
    IsApart (.word "AND") (testParts target t) := by
  cases t <;> simp [IsApart, testParts, h]

theorem join?_clause (j : JoinClause) : join? (joinClause j) = some j := by
  simp [joinClause, join?, mapM_items isApart_joinTest joinTest?_parts]

/-! ### Clauses by their heads -/

section Heads

variable {head : String} {separator : Part}

@[simp] theorem bodies_nil : bodies head [] = [] := rfl

@[simp] theorem bodies_cons (c : Clause) (cs : List Clause) :
    bodies head (c :: cs) = if c.head = head then c.body :: bodies head cs else bodies head cs := by
  by_cases h : c.head = head <;> simp [bodies, h]

@[simp] theorem bodies_append (cs cs' : List Clause) :
    bodies head (cs ++ cs') = bodies head cs ++ bodies head cs' := by
  simp [bodies]

/-- What was written of each element of a list is read back of the clause of the list. -/
theorem mapM_itemsOf {α γ : Type} {f : List Part → Option γ} {g : α → List Part} {k : α → γ}
    (hg : ∀ a, IsApart separator (g a)) (h : ∀ a, f (g a) = some (k a)) {as : List α}
    {cs : List Clause}
    (hb : bodies head cs = bodies head (listClause head separator (as.map g))) :
    (itemsOf head separator cs).mapM f = some (as.map k) := by
  rw [itemsOf, hb, listClause]
  cases as with
  | nil => rfl
  | cons a as => simpa using mapM_items hg h (a :: as)

/-- Tests are read back of their clause if their targets are. -/
theorem mapM_tests {α : Type} {target? : List Part → Option α} {parts : α → List Part}
    (h : ∀ a, target? (parts a) = some a) (hn : ∀ a, .word "AND" ∉ parts a)
    {tests : List (α × Test)} {cs : List Clause}
    (hb : bodies "WHERE" cs = bodies "WHERE"
      (listClause "WHERE" (.word "AND") (tests.map fun t => testParts (parts t.1) t.2))) :
    (itemsOf "WHERE" (.word "AND") cs).mapM (test? target?) = some tests := by
  have ht := mapM_itemsOf (fun t : α × Test => isApart_test (hn t.1) t.2) (test?_parts h) hb
  simpa using ht

/-- A clause of items stands once or not at all. -/
theorem bodies_listClause (ls : List (List Part)) : bodies head (listClause head separator ls) =
    if ls = [] then [] else [[separator].intercalate ls] := by
  rw [listClause]
  simp only [List.isEmpty_iff]
  split <;> simp

theorem bodies_listClause_ne {other : String} (h : other ≠ head) (ls : List (List Part)) :
    bodies head (listClause other separator ls) = [] := by
  rw [listClause]
  split <;> simp [h]

theorem bodies_joins (h : joinKind? head = none) (js : List JoinClause) :
    bodies head (js.map joinClause) = [] := by
  have hj (j : JoinClause) : (joinClause j).head ≠ head := by
    rintro rfl
    simp [joinClause] at h
  simp [bodies, hj]

end Heads

/-! ### Windows -/

section Windows

variable (d : Dialect) (limit offset : Option UInt64)

theorem bodies_window_ne {head : String} (hl : "LIMIT" ≠ head) (ho : "OFFSET" ≠ head) :
    bodies head (windowClauses d limit offset) = [] := by
  rw [windowClauses, bodies_append]
  cases limitText? d limit offset <;> cases offset <;> simp [hl, ho]

theorem number?_natText (n : UInt64) :
    number? [[.number (Number.natText n.toNat)]] = some n := by
  have hd : (Nat.toDigits 10 n.toNat).all Char.isDigit = true := List.all_eq_true.mpr fun c =>
    Nat.isDigit_of_mem_toDigits (by decide) (by decide)
  simp [number?, Number.natText, hd, Nat.ofDigitChars_ten_toDigits]

theorem number?_offset : number? (bodies "OFFSET" (windowClauses d limit offset)) = offset := by
  have hl : bodies "OFFSET" ((limitText? d limit offset).toList.map fun t =>
      ⟨"LIMIT", [.number t]⟩) = [] := by
    cases limitText? d limit offset <;> simp
  rw [windowClauses, bodies_append, hl]
  cases offset with
  | none => rfl
  | some n => simp [number?_natText]

theorem number?_limit :
    number? (bodies "LIMIT" (windowClauses d limit offset)) = d.windowLimit limit offset := by
  have ho : bodies "LIMIT" (offset.toList.map fun n =>
      ⟨"OFFSET", [.number (Number.natText n.toNat)]⟩) = [] := by
    cases offset <;> simp
  rw [windowClauses, bodies_append, ho, List.append_nil, Dialect.windowLimit]
  cases limit with
  | some n => simp [limitText?, number?_natText]
  | none =>
    cases offset with
    | none => simp [limitText?, number?]
    | some m =>
      -- an offset alone: what stands for no limit differs from dialect to dialect
      cases d with
      | postgres => rfl
      | mysql => exact number?_natText 18446744073709551615
      | sqlite =>
        have h : number? [[.number "-1"]] = none := by decide
        exact h

end Windows

/-! ### Plans -/

end NormalForm

/-- The normal form of a plan. -/
def Plan.normalForm (d : Dialect) : Plan → NormalForm
  | .select p => .select ⟨p.table, p.aliasName, p.joins, p.projections.map (·.expression),
      p.filters, p.sortKeys, d.windowLimit p.limit p.offset, p.offset⟩
  | .insert table cells => .insert table cells
  | .update table cells filters => .update table cells filters
  | .delete table filters => .delete table filters

theorem Query.normalForm_plan (d : Dialect) (q : Query) : q.plan.normalForm d = q.normalForm d := by
  rw [plan, normalForm]
  cases q.kind with
  | select => simp [Plan.normalForm, selectPlan, ColumnRef.projection]
  | _ => rfl

namespace NormalForm

open Plan

section Select

variable (d : Dialect) (p : SelectPlan)

/-- The clause with a head of a select, if no join has this head. -/
theorem bodies_select {head : String} (h : joinKind? head = none) :
    bodies head (selectClauses d p) = bodies head
      (⟨"SELECT", [.mark ","].intercalate (p.projections.map projectionParts)⟩ ::
        ⟨"FROM", [.identifier p.table, .identifier p.aliasName]⟩ :: selectEnd d p) := by
  rw [selectClauses]
  simp only [bodies_cons, bodies_append, bodies_joins h, List.nil_append]

/-- The projected expressions are read back of their clause. -/
theorem mapM_projections : (itemsOf "SELECT" (.mark ",") (selectClauses d p)).mapM projection? =
    some (p.projections.map (·.expression)) := by
  have hs : bodies "SELECT" (selectClauses d p) =
      [[.mark ","].intercalate (p.projections.map projectionParts)] := by
    have hb := bodies_select d p (rfl : joinKind? "SELECT" = none)
    simp (disch := decide) [hb, selectEnd, bodies_listClause_ne, bodies_window_ne]
  rw [itemsOf, hs]
  simpa using mapM_items isApart_projection projection?_parts p.projections

theorem filter_joins : ((selectClauses d p).filter fun c => (joinKind? c.head).isSome) =
    p.joins.map joinClause := by
  have hj (j : JoinClause) : (joinKind? (joinClause j).head).isSome = true := by
    simp [joinClause]
  have he : ∀ c ∈ selectEnd d p, ¬ (joinKind? c.head).isSome = true := by
    intro c hc
    have hh : ∀ head ∈ ["WHERE", "GROUP BY", "ORDER BY", "LIMIT", "OFFSET"],
        ¬ (joinKind? head).isSome = true := by decide
    exact hh _ (head_mem_of_mem_selectEnd hc)
  have hs : (joinKind? "SELECT").isSome = false ∧ (joinKind? "FROM").isSome = false := by decide
  simp [selectClauses, hs, hj, List.filter_eq_nil_iff.mpr he]

theorem select?_clauses : select? (selectClauses d p) =
    some ⟨p.table, p.aliasName, p.joins, p.projections.map (·.expression), p.filters, p.sortKeys,
      d.windowLimit p.limit p.offset, p.offset⟩ := by
  have hb {head : String} (h : joinKind? head = none) := bodies_select d p h
  have hf : bodies "FROM" (selectClauses d p) =
      [[.identifier p.table, .identifier p.aliasName]] := by
    simp (disch := decide) [hb, selectEnd, bodies_listClause_ne, bodies_window_ne]
  have hw : bodies "WHERE" (selectClauses d p) = bodies "WHERE" (listClause "WHERE" (.word "AND")
      (p.filters.map fun t => testParts (qualifiedParts t.1) t.2)) := by
    simp (disch := decide) [hb, selectEnd, bodies_listClause_ne, bodies_window_ne]
  have ho : bodies "ORDER BY" (selectClauses d p) = bodies "ORDER BY"
      (listClause "ORDER BY" (.mark ",") (p.sortKeys.map sortKeyParts)) := by
    simp (disch := decide) [hb, selectEnd, bodies_listClause_ne, bodies_window_ne]
  have hn : number? (bodies "LIMIT" (selectClauses d p)) = d.windowLimit p.limit p.offset ∧
      number? (bodies "OFFSET" (selectClauses d p)) = p.offset := by
    simp (disch := decide) [hb, selectEnd, bodies_listClause_ne, number?_limit, number?_offset]
  have hws : (itemsOf "WHERE" (.word "AND") (selectClauses d p)).mapM (test? qualified?) =
      some p.filters := by
    exact mapM_tests qualified?_parts (fun _ => by simp [qualifiedParts]) hw
  have hos : (itemsOf "ORDER BY" (.mark ",") (selectClauses d p)).mapM sortKey? =
      some p.sortKeys := by
    simpa using mapM_itemsOf isApart_sortKey sortKey?_parts ho
  have hjs : ((selectClauses d p).filter fun c => (joinKind? c.head).isSome).mapM join? =
      some p.joins := by
    rw [filter_joins]
    simpa using mapM_map join?_clause p.joins
  simp [select?, hf, hjs, mapM_projections, hws, hos, hn]

end Select

theorem filters?_clauses (filters : List (String × Test)) :
    filters? (writeWhereClause filters) = some filters :=
  mapM_tests column?_parts (fun _ => by simp) rfl

theorem mapM_bracketed {α γ : Type} {f : List Part → Option γ} {g : α → List Part} {k : α → γ}
    (hg : ∀ a, IsApart (.mark ",") (g a)) (h : ∀ a, f (g a) = some (k a)) (as : List α) :
    (items (.mark ",") (unbracketed (bracketed (as.map g)))).mapM f = some (as.map k) := by
  have hu : unbracketed (bracketed (as.map g)) = [.mark ","].intercalate (as.map g) := by
    simp [unbracketed, bracketed]
  rw [hu, mapM_items hg h]

/-- The clauses of a plan tell its normal form. -/
theorem ofClauses?_clauses (d : Dialect) (p : Plan) :
    ofClauses? (p.clauses d) = some (p.normalForm d) := by
  cases p with
  | select p =>
    have hs : ofClauses? (selectClauses d p) = (select? (selectClauses d p)).map .select := by
      simp [ofClauses?, selectClauses, Option.map_eq_bind]
    rw [clauses, hs, select?_clauses]
    rfl
  | insert table cells =>
    have ha (p : Part) (hp : p ≠ .mark ",") : IsApart (.mark ",") [p] := by
      simp [IsApart, hp.symm]
    have hc := mapM_bracketed (fun c : String × Value => ha (.identifier c.1) (by simp))
      (fun c => column?_parts c.1) cells
    have hv := mapM_bracketed (fun c : String × Value => ha (.argument c.2) (by simp))
      (fun c => value?_parts c.2) cells
    simp [ofClauses?, clauses, hc, hv, Plan.normalForm, List.zip_map']
  | update table cells filters =>
    have hc : (items (.mark ",") ([.mark ","].intercalate (cells.map cellParts))).mapM cell? =
        some cells := by
      simpa using mapM_items isApart_cell cell?_parts cells
    simp [ofClauses?, clauses, hc, Plan.normalForm, filters?_clauses]
  | delete table filters => simp [ofClauses?, clauses, Plan.normalForm, filters?_clauses]

end NormalForm

namespace Query

/-- A statement tells the normal form of the query it was compiled from. -/
theorem normalForm?_compile {d : Dialect} {q : Query} {s : Statement} (h : q.compile d = .ok s) :
    s.normalForm? d = some (q.normalForm d) := by
  rw [Statement.normalForm?, clauses?_compile h, Option.bind_some, NormalForm.ofClauses?_clauses,
    normalForm_plan]

/-- Queries with one statement have one normal form, and it can be read from the statement. -/
theorem rendering_unambiguous {d : Dialect} {q q' : Query} {s : Statement}
    (h : q.compile d = .ok s) (h' : q'.compile d = .ok s) :
    q.normalForm d = q'.normalForm d ∧ s.normalForm? d = some (q.normalForm d) := by
  have hq := normalForm?_compile h
  have hq' := normalForm?_compile h'
  exact ⟨Option.some.inj (hq.symm.trans hq'), hq⟩

/-- Reads from an offset, and up to a limit if there is one. -/
def paged (limit : Option UInt64) (filter : ColumnRef) : Query :=
  { ((on .select "t").addColumn { name := "a" }).addFilter filter with
    limit := limit, offset := some 20 }

/-- The largest limit is none on MySQL, and a filter without a value is none. -/
theorem rendering_unambiguous_paged : ∃ s,
    (paged none { name := "b" }).compile .mysql = .ok s ∧
    (paged (some 18446744073709551615) { name := "c" }).compile .mysql = .ok s ∧
    (paged none { name := "b" }).normalForm .mysql =
      (paged (some 18446744073709551615) { name := "c" }).normalForm .mysql ∧
    s.normalForm? .mysql = some ((paged none { name := "b" }).normalForm .mysql) := by
  obtain ⟨s, hs⟩ : ∃ s, (paged none { name := "b" }).compile .mysql = .ok s := ⟨_, rfl⟩
  have hs' : (paged (some 18446744073709551615) { name := "c" }).compile .mysql = .ok s := by
    rw [← hs]
    decide
  exact ⟨s, hs, hs', rendering_unambiguous hs hs'⟩

end Query

end SqlGateway
