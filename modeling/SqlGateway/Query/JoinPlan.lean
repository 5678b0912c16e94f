import SqlGateway.Query.Rejection

/-! The tables of a join tree in the order of their join clauses: level by level, siblings in the
    order of the query. A queue holds the tables whose joins are still to be listed; the joins of
    its head go to the plan and their tables to its end.

        a ─┬─ b ─── d          queue  [a] ▸ [b, c] ▸ [c, d] ▸ [d] ▸ []
           └─ c                joins        b, c      d

    Every table of the tree gets its alias exactly once, or the plan is rejected. -/

namespace SqlGateway

/-- The joins of a tree in the order of their clauses, and every alias of the tree. -/
structure JoinPlan where
  joins : List Join
  aliases : List String

namespace JoinPlan

/-- List the joins of one table, given the aliases taken so far. -/
def enter (aliases : List String) : List Join → Except Rejection (List String)
  | [] => .ok aliases
  | join :: rest =>
    if aliases.contains join.table.aliasName then .error (.repeatedAlias join.table.aliasName)
    else enter (aliases ++ [join.table.aliasName]) rest

/-- Work the queue off. Every step takes one table of the tree, so the number of tables bounds the
    steps. -/
def walk : Nat → List JoinTree → JoinPlan → Except Rejection JoinPlan
  | 0, _, plan => .ok plan
  | _, [], plan => .ok plan
  | fuel + 1, table :: queue, plan =>
    match enter plan.aliases table.joins with
    | .error e => .error e
    | .ok aliases =>
      walk fuel (queue ++ table.joins.map Join.table) ⟨plan.joins ++ table.joins, aliases⟩

/-- The plan of a tree. -/
def ofTree (root : JoinTree) : Except Rejection JoinPlan :=
  walk root.tableCount [root] ⟨[], [root.aliasName]⟩

/-- The alias of the table of a column, if the tree has such a table. -/
def resolve (plan : JoinPlan) (root : TableKey) (column : ColumnRef) : Except Rejection String :=
  let aliasName := column.tableAlias root
  if plan.aliases.contains aliasName then .ok aliasName
  else .error (.unknownAlias column.name aliasName)

end JoinPlan

end SqlGateway
