import SqlGateway.Query.Basic

/-! Queries as JSON documents.

    Writing leaves out what has its usual value in the nested parts (occurrence zero, no joins, no
    aggregate, ascending, no value) and always writes the lists of the query itself. Reading takes
    the same shape; a column's `value` of `null` is an explicit null, a missing one is no value. -/

namespace SqlGateway

open Json (Decoder Slot)

namespace QueryKind

def names : List (String × QueryKind) :=
  [("select", .select), ("insert", .insert), ("update", .update), ("delete", .delete)]

def jsonName : QueryKind → String
  | .select => "select"
  | .insert => "insert"
  | .update => "update"
  | .delete => "delete"

end QueryKind

def JoinKind.names : List (String × JoinKind) :=
  [("inner", .inner), ("left", .left), ("right", .right)]

def JoinKind.jsonName : JoinKind → String
  | .inner => "inner"
  | .left => "left"
  | .right => "right"

/-- Names of the comparisons; inequality has two. -/
def Comparison.names : List (String × Comparison) :=
  [("=", .eq), ("!=", .ne), ("<>", .ne), ("<", .lt), ("<=", .le), (">", .gt), (">=", .ge)]

def Aggregate.names : List (String × Aggregate) :=
  [("count", .count), ("sum", .sum), ("avg", .avg), ("min", .min), ("max", .max)]

/-- A field unless the condition says to leave it out. -/
def fieldUnless (skip : Bool) (name : String) (value : Json) : List (String × Json) :=
  if skip then [] else [(name, value)]

/-- A field for a value that is there. -/
def fieldOf {α : Type} (name : String) (f : α → Json) : Option α → List (String × Json)
  | some x => [(name, f x)]
  | none => []

namespace TableKey

def fields (k : TableKey) : List (String × Json) :=
  [("name", .str k.name)] ++ fieldUnless (k.occurrence == 0) "occurrence" (.int k.occurrence.toNat)

def toJson (k : TableKey) : Json := .obj k.fields

private structure Draft where
  name : Option String := none
  occurrence : Option Nat := none

def decoder : Decoder TableKey :=
  Json.record
    [⟨"name", false, fun d => d.name.isSome,
      fun d => Json.string.map fun s => { d with name := some s }⟩,
     ⟨"occurrence", true, fun d => d.occurrence.isSome,
      fun d => (Json.natural 32).map fun n => { d with occurrence := some n }⟩]
    ({} : Draft)
    fun d => d.name.map fun name => ⟨name, (d.occurrence.getD 0).toUInt32⟩

end TableKey

namespace ColumnRef

def toJson (c : ColumnRef) : Json :=
  .obj (fieldOf "table" TableKey.toJson c.table ++ [("name", .str c.name)] ++
    fieldOf "function" (fun f => .str f.name) c.aggregate ++
    fieldUnless (!c.descending) "desc" (.bool true) ++
    fieldOf "value" Value.toJson c.value)

private structure Draft where
  table : Option (Option TableKey) := none
  name : Option String := none
  aggregate : Option (Option Aggregate) := none
  descending : Option Bool := none
  value : Option Value := none

def decoder : Decoder ColumnRef :=
  Json.record
    [⟨"table", true, fun d => d.table.isSome,
      fun d => (Json.optional TableKey.decoder).map fun t => { d with table := some t }⟩,
     ⟨"name", false, fun d => d.name.isSome,
      fun d => Json.string.map fun s => { d with name := some s }⟩,
     ⟨"function", true, fun d => d.aggregate.isSome,
      fun d => (Json.optional (Json.name Aggregate.names)).map fun f =>
        { d with aggregate := some f }⟩,
     ⟨"desc", true, fun d => d.descending.isSome,
      fun d => Json.boolean.map fun b => { d with descending := some b }⟩,
     ⟨"value", true, fun d => d.value.isSome,
      fun d => Value.decoder.map fun v => { d with value := some v }⟩]
    ({} : Draft)
    fun d => d.name.map fun name =>
      ⟨d.table.join, name, d.aggregate.join, d.descending.getD false, d.value⟩

end ColumnRef

namespace Condition

def toJson (c : Condition) : Json :=
  .obj [("left", c.left.toJson), ("operator", .str c.comparison.symbol), ("right", c.right.toJson)]

private structure Draft where
  left : Option ColumnRef := none
  comparison : Option Comparison := none
  right : Option ColumnRef := none

/-- An array has to say the comparison, because the right side follows it. -/
def decoder : Decoder Condition :=
  Json.record
    [⟨"left", false, fun d => d.left.isSome,
      fun d => ColumnRef.decoder.map fun c => { d with left := some c }⟩,
     ⟨"operator", true, fun d => d.comparison.isSome,
      fun d => (Json.name Comparison.names).map fun c => { d with comparison := some c }⟩,
     ⟨"right", false, fun d => d.right.isSome,
      fun d => ColumnRef.decoder.map fun c => { d with right := some c }⟩]
    ({} : Draft)
    fun d => do return ⟨← d.left, d.comparison.getD .eq, ← d.right⟩

end Condition

namespace JoinTree

mutual

def toJson : JoinTree → Json
  | .node key joins => .obj (key.fields ++ joinFields joins)

/-- The field of the joins, if there are any. -/
def joinFields : List Join → List (String × Json)
  | [] => []
  | .mk kind conditions table :: rest =>
    [("joins", .arr (joinJson kind conditions (toJson table) :: joinsJson rest))]

def joinsJson : List Join → List Json
  | [] => []
  | .mk kind conditions table :: rest => joinJson kind conditions (toJson table) :: joinsJson rest

/-- A join around the document of its table. -/
def joinJson (kind : JoinKind) (conditions : List Condition) (table : Json) : Json :=
  .obj [("table", table),
    ("rule", .obj [("kind", .str kind.jsonName),
      ("conditions", .arr (conditions.map Condition.toJson))])]

end

private structure Rule where
  kind : Option JoinKind := none
  conditions : Option (List Condition) := none

/-- Reads how a table is joined. -/
def ruleDecoder : Decoder (JoinKind × List Condition) :=
  Json.record
    [⟨"kind", true, fun d => d.kind.isSome,
      fun d => (Json.name JoinKind.names).map fun k => { d with kind := some k }⟩,
     ⟨"conditions", false, fun d => d.conditions.isSome,
      fun d => (Json.list Condition.decoder).map fun cs => { d with conditions := some cs }⟩]
    ({} : Rule)
    fun d => d.conditions.map fun cs => (d.kind.getD .inner, cs)

private structure JoinDraft where
  table : Option JoinTree := none
  rule : Option (JoinKind × List Condition) := none

/-- Reads a join, given how its table is read. -/
def joinDecoder (table : Decoder JoinTree) : Decoder Join :=
  Json.record
    [⟨"table", false, fun d => d.table.isSome,
      fun d => table.map fun t => { d with table := some t }⟩,
     ⟨"rule", false, fun d => d.rule.isSome,
      fun d => ruleDecoder.map fun r => { d with rule := some r }⟩]
    ({} : JoinDraft)
    fun d => do
      let (kind, conditions) ← d.rule
      return .mk kind conditions (← d.table)

private structure Draft where
  name : Option String := none
  occurrence : Option Nat := none
  joins : Option (List Join) := none

/-- Reads a tree of at most `height` levels of joins. -/
def decoderOf : Nat → Decoder JoinTree
  | 0 => fun _ _ => .error .malformed
  | height + 1 =>
    Json.record
      [⟨"name", false, fun d => d.name.isSome,
        fun d => Json.string.map fun s => { d with name := some s }⟩,
       ⟨"occurrence", true, fun d => d.occurrence.isSome,
        fun d => (Json.natural 32).map fun n => { d with occurrence := some n }⟩,
       ⟨"joins", true, fun d => d.joins.isSome,
        fun d => (Json.list (joinDecoder (decoderOf height))).map fun js =>
          { d with joins := some js }⟩]
      ({} : Draft)
      fun d => d.name.map fun name =>
        .node ⟨name, (d.occurrence.getD 0).toUInt32⟩ (d.joins.getD [])

/-- Reads a tree; each level opens several containers, so the limit of nesting is reached first. -/
def decoder : Decoder JoinTree := decoderOf Json.depthLimit

end JoinTree

namespace Query

def toJson (q : Query) : Json :=
  .obj ([("type", .str q.kind.jsonName), ("table", q.table.toJson),
    ("columns", .arr (q.columns.map ColumnRef.toJson)),
    ("orderBy", .arr (q.orderBy.map ColumnRef.toJson)),
    ("where", .arr (q.filters.map ColumnRef.toJson))] ++
    fieldOf "limit" (fun n : UInt64 => .int n.toNat) q.limit ++
    fieldOf "offset" (fun n : UInt64 => .int n.toNat) q.offset ++
    [("allowUnfiltered", .bool q.allowUnfiltered)])

private structure Draft where
  kind : Option QueryKind := none
  table : Option JoinTree := none
  columns : Option (List ColumnRef) := none
  orderBy : Option (List ColumnRef) := none
  filters : Option (List ColumnRef) := none
  limit : Option (Option Nat) := none
  offset : Option (Option Nat) := none
  allowUnfiltered : Option Bool := none

def decoder : Decoder Query :=
  Json.record
    [⟨"type", false, fun d => d.kind.isSome,
      fun d => (Json.name QueryKind.names).map fun k => { d with kind := some k }⟩,
     ⟨"table", false, fun d => d.table.isSome,
      fun d => JoinTree.decoder.map fun t => { d with table := some t }⟩,
     ⟨"columns", true, fun d => d.columns.isSome,
      fun d => (Json.list ColumnRef.decoder).map fun cs => { d with columns := some cs }⟩,
     ⟨"orderBy", true, fun d => d.orderBy.isSome,
      fun d => (Json.list ColumnRef.decoder).map fun cs => { d with orderBy := some cs }⟩,
     ⟨"where", true, fun d => d.filters.isSome,
      fun d => (Json.list ColumnRef.decoder).map fun cs => { d with filters := some cs }⟩,
     ⟨"limit", true, fun d => d.limit.isSome,
      fun d => (Json.optional (Json.natural 64)).map fun n => { d with limit := some n }⟩,
     ⟨"offset", true, fun d => d.offset.isSome,
      fun d => (Json.optional (Json.natural 64)).map fun n => { d with offset := some n }⟩,
     ⟨"allowUnfiltered", true, fun d => d.allowUnfiltered.isSome,
      fun d => Json.boolean.map fun b => { d with allowUnfiltered := some b }⟩]
    ({} : Draft)
    fun d => do
      return ⟨← d.kind, ← d.table, d.columns.getD [], d.orderBy.getD [], d.filters.getD [],
        d.limit.join.map Nat.toUInt64, d.offset.join.map Nat.toUInt64,
        d.allowUnfiltered.getD false⟩

/-- The query of a JSON text. -/
def ofText (s : String) : Except Json.Defect Query := Json.decode decoder s

end Query

end SqlGateway
