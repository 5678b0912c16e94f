import SqlGateway.Query.Plan
import SqlGateway.Statement.Draft

/-! Statements of plans. The text of a plan is fixed but for its identifiers, its arguments and the
    two numbers of its window:

        SELECT "t"."a" "t.a", count("t"."b") "count(t.b)" FROM "t" "t"
          JOIN "u" "u" ON "t"."a" = "u"."a" WHERE "t"."c" = $1 AND "t"."d" IS NULL
          GROUP BY "t"."a" ORDER BY "t"."a" DESC LIMIT 10 OFFSET 20
        INSERT INTO "t" ("a","b") VALUES ($1,$2)
        UPDATE "t" SET "a" = $1 WHERE "b" = $2
        DELETE FROM "t" WHERE "b" = $1                                                            -/

namespace SqlGateway

namespace Plan

open Draft (qualified separated)

def expressionDraft (e : Expression) : Draft :=
  match e.aggregate with
  | some f =>
    [.text f.name, .text "("] ++ qualified e.target.aliasName e.target.column ++ [.text ")"]
  | none => qualified e.target.aliasName e.target.column

def projectionDraft (p : Projection) : Draft :=
  expressionDraft p.expression ++ [.text " ", .identifier p.label]

def joinTestDraft (t : JoinTest) : Draft :=
  qualified t.left.aliasName t.left.column ++ [.text " ", .text t.comparison.symbol, .text " "] ++
    qualified t.right.aliasName t.right.column

def joinDraft (j : JoinClause) : Draft :=
  [.text " ", .text j.kind.keyword, .text " ", .identifier j.name, .text " ",
    .identifier j.aliasName,
    .text " ON "] ++ separated " AND " (j.tests.map joinTestDraft)

/-- A test of the column that `target` names. -/
def testDraft (target : Draft) : Test → Draft
  | .isNull => target ++ [.text " IS NULL"]
  | .equals v => target ++ [.text " = ", .argument v]

/-- A condition, if there is a test. -/
def whereDraft (tests : List Draft) : Draft :=
  if tests.isEmpty then [] else .text " WHERE " :: separated " AND " tests

def groupDraft (keys : List Qualified) : Draft :=
  if keys.isEmpty then []
  else .text " GROUP BY " :: separated ", " (keys.map fun k => qualified k.aliasName k.column)

def sortKeyDraft (k : SortKey) : Draft :=
  expressionDraft k.expression ++ (if k.descending then [.text " DESC"] else [])

def sortDraft (keys : List SortKey) : Draft :=
  if keys.isEmpty then [] else .text " ORDER BY " :: separated ", " (keys.map sortKeyDraft)

/-- The window. An offset alone needs a limit where the dialect has one for all rows. -/
def windowDraft (d : Dialect) (limit offset : Option UInt64) : Draft :=
  let number (n : UInt64) : Fragment := .text (Number.natText n.toNat)
  (match limit, offset, d.unboundedLimit with
    | some n, _, _ => [.text " LIMIT ", number n]
    | none, some _, some all => [.text " LIMIT ", .text all]
    | none, _, _ => []) ++
  (match offset with
    | some n => [.text " OFFSET ", number n]
    | none => [])

def selectDraft (d : Dialect) (p : SelectPlan) : Draft :=
  .text "SELECT " :: separated ", " (p.projections.map projectionDraft) ++
    [.text " FROM ", .identifier p.table, .text " ", .identifier p.aliasName] ++
    p.joins.flatMap joinDraft ++
    whereDraft (p.filters.map fun (c, t) => testDraft (qualified c.aliasName c.column) t) ++
    groupDraft p.groupKeys ++ sortDraft p.sortKeys ++ windowDraft d p.limit p.offset

/-- The condition of a write, whose columns stand without the table. -/
def writeWhereDraft (filters : List (String × Test)) : Draft :=
  whereDraft (filters.map fun (c, t) => testDraft [.identifier c] t)

def draft (d : Dialect) : Plan → Draft
  | .select p => selectDraft d p
  | .insert table cells =>
    [.text "INSERT INTO ", .identifier table, .text " ("] ++
      separated "," (cells.map fun (c, _) => [.identifier c]) ++ [.text ") VALUES ("] ++
      separated "," (cells.map fun (_, v) => [.argument v]) ++ [.text ")"]
  | .update table cells filters =>
    [.text "UPDATE ", .identifier table, .text " SET "] ++
      separated ", " (cells.map fun (c, v) => [.identifier c, .text " = ", .argument v]) ++
      writeWhereDraft filters
  | .delete table filters =>
    [.text "DELETE FROM ", .identifier table] ++ writeWhereDraft filters

/-- The statement of a plan. -/
def statement (d : Dialect) (p : Plan) : Statement := (p.draft d).render d

end Plan

/-- The statement of a query in a dialect. -/
def Query.compile (d : Dialect) (q : Query) : Except Rejection Statement :=
  (Plan.ofQuery d q).map (Plan.statement d)

end SqlGateway
