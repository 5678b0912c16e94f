import SqlGateway.Query.Basic

/-! Why a query has no statement. Each cause has its message; an update or a delete that would reach
    every row is told apart, because the caller can lift that ban. -/

namespace SqlGateway

open Number (natText)

/-- What is wrong with a query. -/
inductive Rejection where
  | noProjection
  | repeatedAlias (aliasName : String)
  | unknownAlias (column aliasName : String)
  | longLabel (label : String) (limit : Nat)
  | unconditionalJoin (aliasName : String)
  | aggregateInJoin
  | aggregateInFilter (column : String)
  | joinsInWrite (kind : QueryKind)
  | orderInWrite (kind : QueryKind)
  | aggregateInWrite (kind : QueryKind)
  | foreignColumn (column table : String)
  | insertWithoutColumns
  | insertWithFilters
  | updateWithoutColumns
  | deleteWithColumns
  | unfilteredWrite (kind : QueryKind)
  deriving DecidableEq, Repr

namespace Rejection

def message : Rejection → String
  | .noProjection => "select requires at least one column"
  | .repeatedAlias aliasName =>
    "table alias '" ++ aliasName ++ "' appears more than once in the join tree"
  | .unknownAlias column aliasName =>
    "column '" ++ column ++ "' references table alias '" ++ aliasName ++
      "' which is not in the join tree"
  | .longLabel label limit =>
    "output label '" ++ label ++ "' is longer than " ++ natText limit ++ " bytes"
  | .unconditionalJoin aliasName => "join of '" ++ aliasName ++ "' has no conditions"
  | .aggregateInJoin => "aggregate functions are not allowed in join conditions"
  | .aggregateInFilter column =>
    "aggregate functions are not allowed in filters (column '" ++ column ++ "')"
  | .joinsInWrite kind =>
    kind.verb ++ " addresses a single table; joins are only valid for SELECT"
  | .orderInWrite kind => kind.verb ++ " does not support ordering or paging"
  | .aggregateInWrite kind => "aggregate functions are not valid in " ++ kind.verb
  | .foreignColumn column table =>
    "column '" ++ column ++ "' must belong to table '" ++ table ++ "'"
  | .insertWithoutColumns => "insert requires at least one column"
  | .insertWithFilters => "insert does not take a where list"
  | .updateWithoutColumns => "update requires at least one column to set"
  | .deleteWithColumns => "delete does not take a column list"
  | .unfilteredWrite kind => kind.verb ++ " without WHERE"

/-- What an update or a delete without a condition would do. -/
def consequence : QueryKind → String
  | .update => "This will update all rows in the table"
  | _ => "This will delete all rows from the table"

end Rejection

end SqlGateway
