import SqlGateway.Engine.Table
import SqlGateway.Query.Plan

/-! Writing rows. A statement that writes does all of its work or none. Each row is checked as it is
    written, in the order

        row number is an integer ▸ required cells ▸ row number is new ▸ keys, last declared first

    and when all rows are written, every reference of the file has to find the row that it names. -/

namespace SqlGateway.Engine

namespace StoredTable

/-- The affinities of the columns. -/
def affinities (t : StoredTable) : List Affinity := t.columns.map ColumnDef.affinity

/-- Name of a column of the table, for messages. -/
def columnText (t : StoredTable) (column : String) : String := t.name ++ "." ++ column

/-- A required column that a row leaves empty. -/
def missing? (t : StoredTable) (r : StoredRow) : Option String :=
  (t.columns.mapIdx fun i c => (i, c)).findSome? fun (i, c) =>
    if c.isRequired && t.numberColumn? != some i && (r.cell i).isNull then some c.name else none

/-- The cells of a row under a key, if none is empty. -/
def keyCells? (t : StoredTable) (k : Key) (r : StoredRow) : Option (List Cell) :=
  let cells := k.columns.map fun name => ((t.position? name).map r.cell).getD .null
  if cells.any Cell.isNull then none else some cells

/-- Do two rows agree on a key? -/
def agree (t : StoredTable) (k : Key) (a b : StoredRow) : Bool :=
  match t.keyCells? k a, t.keyCells? k b with
  | some xs, some ys => (xs.zip ys).all fun (x, y) => x.same y
  | _, _ => false

/-- Two rows agree on a key. -/
def keyFault (t : StoredTable) (k : Key) : Fault :=
  fault (if k.isPrimary then 1555 else 2067)
    ("UNIQUE constraint failed: " ++ ", ".intercalate (k.columns.map t.columnText))

/-- The first thing that keeps a row out of a table. -/
def objection? (t : StoredTable) (others : List StoredRow) (r : StoredRow) : Option Fault :=
  match t.missing? r with
  | some name => some (fault 1299 ("NOT NULL constraint failed: " ++ t.columnText name))
  | none =>
    if t.numberColumn?.isSome && others.any fun o => o.number == r.number then
      some (t.keyFault ⟨t.primaryKey, true⟩)
    else
      (t.indexes.reverse.find? fun k => others.any fun o => t.agree k o r).map t.keyFault

/-- Is the row in the way of another one? -/
def collides (t : StoredTable) (r other : StoredRow) : Bool :=
  (t.numberColumn?.isSome && other.number == r.number) || t.indexes.any fun k => t.agree k other r

/-- Cells as the columns keep them. -/
def stored (t : StoredTable) (cells : List Cell) : List Cell :=
  List.zipWith Affinity.store t.affinities cells

/-- The row number that a cell asks for. -/
def numberOf (c : Cell) : Except Fault Int :=
  match Affinity.store .integer c with
  | .int i => .ok i.toInt
  | _ => .error mismatch

/-- The row of cells, numbered. A row number that is not given is the next one. -/
def newRow (t : StoredTable) (cells : List Cell) : Except Fault StoredRow := do
  match t.numberColumn? with
  | none => return ⟨t.nextNumber, t.stored cells⟩
  | some i =>
    let given := cells[i]?.getD .null
    let number ← if given.isNull then pure t.nextNumber else numberOf given
    return ⟨number, (t.stored cells).set i (.int (Int64.ofInt number))⟩

end StoredTable

/-- What an insert does with a row that is in the way of an older one. -/
inductive OnConflict where
  | abort
  | ignore
  | replace
  deriving DecidableEq, Repr

namespace StoredTable

/-- Insert one row; the count says whether it went in. -/
def insertRow (onConflict : OnConflict) (t : StoredTable) (cells : List Cell) :
    Except Fault (StoredTable × Nat) := do
  let row ← t.newRow cells
  let keep (rows : List StoredRow) : StoredTable × Nat := ({ t with rows := place row rows }, 1)
  match onConflict with
  | .replace =>
    let rows := t.rows.filter fun o => !t.collides row o
    match t.objection? rows row with
    | some f => throw f
    | none => return keep rows
  | .ignore => return if (t.objection? t.rows row).isSome then (t, 0) else keep t.rows
  | .abort =>
    match t.objection? t.rows row with
    | some f => throw f
    | none => return keep t.rows

/-- Insert rows one after another. -/
def insertRows (onConflict : OnConflict) (t : StoredTable) :
    List (List Cell) → Except Fault (StoredTable × Nat)
  | [] => .ok (t, 0)
  | cells :: rest => do
    let (t, n) ← t.insertRow onConflict cells
    let (t, m) ← insertRows onConflict t rest
    return (t, n + m)

/-- The cells of a full row, given some of them by name; the first cell of a name counts. -/
def fullRow (t : StoredTable) (given : List (String × Cell)) : List Cell :=
  t.columns.map fun c =>
    ((given.find? fun (name, _) => sameName name c.name).map Prod.snd).getD c.default

/-- The first name that is no column of the table. -/
def unknown? (t : StoredTable) (names : List String) : Option String :=
  names.find? fun name => (t.position? name).isNone

/-- Replace one row by what `change` makes of its cells. -/
def updateRow (change : List (Nat × Cell)) (t : StoredTable) (old : StoredRow) :
    Except Fault StoredTable := do
  let cells := t.stored (change.foldl (fun cells (i, c) => cells.set i c) old.cells)
  let row : StoredRow ← match t.numberColumn? with
    | none => pure ⟨old.number, cells⟩
    | some i => do
      let number ← numberOf (cells[i]?.getD .null)
      pure ⟨number, cells.set i (.int (Int64.ofInt number))⟩
  let others := t.rows.filter fun o => o.number != old.number
  match t.objection? others row with
  | some f => throw f
  | none => return { t with rows := place row others }

/-- Replace rows one after another. -/
def updateRows (change : List (Nat × Cell)) (t : StoredTable) :
    List StoredRow → Except Fault StoredTable
  | [] => .ok t
  | old :: rest => do updateRows change (← t.updateRow change old) rest

/-- Does a row pass a test? A name that is no column stands for itself as a text. -/
def passes (t : StoredTable) (r : StoredRow) (name : String) : Test → Bool
  | .isNull => ((t.position? name).map fun i => (r.cell i).isNull).getD false
  | .equals v =>
    let given := Cell.ofValue v
    match t.position? name with
    | none => (Cell.text name).same given
    | some i =>
      let affinity := (t.affinities[i]?).getD .none
      let cell := r.cell i
      !cell.isNull && !given.isNull && cell.same (affinity.forComparison given)

/-- The rows that pass all tests. -/
def matching (t : StoredTable) (tests : List (String × Test)) : List StoredRow :=
  t.rows.filter fun r => tests.all fun (name, test) => t.passes r name test

/-- The column that a reference to the table means, if no two rows agree on it. -/
def target? (t : StoredTable) (column : Option String) : Option Nat := do
  let name ← match column, t.primaryKey with
    | some name, _ => some name
    | none, [name] => some name
    | none, _ => none
  let i ← t.position? name
  let isKey := t.keys.any fun k => match k.columns with
    | [only] => sameName only name && (column.isSome || k.isPrimary)
    | _ => false
  if isKey then some i else none

end StoredTable

namespace Database

/-- The references of a table with the positions of their columns, the last declared first. -/
def references (t : StoredTable) : List (Nat × Reference) :=
  let placed := t.columns.mapIdx fun i c => (i, c)
  (placed.filterMap fun (i, c) => c.reference.map fun ref => (i, ref)).reverse

/-- A reference leads to a key of a table. -/
def checkReference (db : Database) (child : StoredTable) (ref : Reference) : Except Fault Unit :=
  match db.table? ref.table with
  | none => .error (statementFault ("no such table: main." ++ ref.table))
  | some parent =>
    match parent.target? ref.column with
    | some _ => .ok ()
    | none => .error (statementFault
        ("foreign key mismatch - \"" ++ child.name ++ "\" referencing \"" ++ ref.table ++ "\""))

/-- The references to a table with the tables that they stand in, the last declared first. -/
def referrers (db : Database) (t : StoredTable) : List (StoredTable × Reference) :=
  db.tables.reverse.flatMap fun child =>
    (references child).filterMap fun (_, ref) =>
      if t.isNamed ref.table then some (child, ref) else none

/-- Does a reference to a table lead to one of these columns? -/
def leadsTo (t : StoredTable) (changed : List Nat) (ref : Reference) : Bool :=
  changed.any fun i => (t.columns[i]?).any fun c =>
    match ref.column with
    | some name => sameName name c.name
    | none => t.primaryKey.any fun name => sameName name c.name

/-- Every reference of a table, and every one to it, leads to a key. -/
def checkAll (db : Database) (t : StoredTable) : Except Fault Unit := do
  (references t).forM fun (_, ref) => db.checkReference t ref
  (db.referrers t).forM fun (child, ref) => db.checkReference child ref

/-- A change of columns looks at the references that stand in them and those that lead to them. If
    there are any, every other reference to the table has to be sound as well. -/
def checkChange (db : Database) (t : StoredTable) (changed : List Nat) : Except Fault Unit := do
  let standing := (references t).filter fun (i, _) => changed.contains i
  let leading := (db.referrers t).filter fun (_, ref) => leadsTo t changed ref
  if !standing.isEmpty || !leading.isEmpty then
    (references t).forM fun (i, ref) =>
      if changed.contains i || t.isNamed ref.table then db.checkReference t ref else .ok ()
    leading.forM fun (child, ref) => db.checkReference child ref
    (db.referrers t).reverse.forM fun (child, ref) => db.checkReference child ref

/-- Does a cell of a referring column find its row? -/
def finds (db : Database) (ref : Reference) (c : Cell) : Bool :=
  c.isNull ||
    match db.table? ref.table with
    | none => true
    | some parent =>
      match parent.target? ref.column with
      | none => true
      | some i =>
        let wanted := ((parent.affinities[i]?).getD .none).store c
        parent.rows.any fun r => (r.cell i).same wanted

/-- Does every reference of the file find its row? -/
def isClosed (db : Database) : Bool :=
  db.tables.all fun t => (t.columns.mapIdx fun i c => (i, c)).all fun (i, c) =>
    match c.reference with
    | none => true
    | some ref => t.rows.all fun r => db.finds ref (r.cell i)

/-- Take a changed table over if every reference still finds its row. -/
def settle (db : Database) (t : StoredTable) (count : Nat) : Except Fault (Nat × Database) :=
  let after := db.replace t
  if after.isClosed then .ok (count, after) else .error (fault 787 "FOREIGN KEY constraint failed")

/-- Insert rows, each given by the cells of the named columns. -/
def insert (db : Database) (onConflict : OnConflict) (table : String)
    (rows : List (List (String × Cell))) : Except Fault (Nat × Database) := do
  let t ← db.writable table
  match t.unknown? (rows.flatMap fun row => row.map Prod.fst) with
  | some name => throw (statementFault ("table " ++ table ++ " has no column named " ++ name))
  | none => pure ()
  (references t).forM fun (_, ref) => db.checkReference t ref
  let (t, n) ← t.insertRows onConflict (rows.map t.fullRow)
  db.settle t n

/-- Change the rows that pass the tests. -/
def update (db : Database) (table : String) (cells : List (String × Cell))
    (tests : List (String × Test)) : Except Fault (Nat × Database) := do
  let t ← db.writable table
  let change ← cells.mapM fun (name, c) =>
    match t.position? name with
    | some i => .ok (i, c)
    | none => .error (statementFault ("no such column: " ++ name))
  db.checkChange t (change.map Prod.fst)
  let rows := t.matching tests
  let t ← t.updateRows change rows
  db.settle t rows.length

/-- Remove the rows that pass the tests. -/
def delete (db : Database) (table : String) (tests : List (String × Test)) :
    Except Fault (Nat × Database) := do
  let t ← db.writable table
  db.checkAll t
  let gone := t.matching tests
  let kept := t.rows.filter fun r => !(gone.any fun g => g.number == r.number)
  db.settle { t with rows := kept } gone.length

/-- Carry out a plan that writes; a plan that reads changes nothing. -/
def write (db : Database) : Plan → Except Fault (Nat × Database)
  | .select _ => .ok (0, db)
  | .insert table cells =>
    db.insert .abort table [cells.map fun (name, v) => (name, Cell.ofValue v)]
  | .update table cells tests =>
    db.update table (cells.map fun (name, v) => (name, Cell.ofValue v)) tests
  | .delete table tests => db.delete table tests

end Database

end SqlGateway.Engine
