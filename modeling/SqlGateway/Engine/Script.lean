import SqlGateway.Engine.Command
import SqlGateway.Engine.Definition

/-! Scripts: statements that define and fill tables, one after another, each ended by a semicolon. A
    statement that cannot be read is a fault at the lexeme where reading stopped, and what stands
    before it has been carried out.

        CREATE TABLE [IF NOT EXISTS] t (c TYPE [NOT NULL] [PRIMARY KEY] [UNIQUE] [DEFAULT literal]
          [REFERENCES u (d)], …, [PRIMARY KEY (c, …)])
        DROP TABLE [IF EXISTS] t
        INSERT [OR IGNORE | OR REPLACE] INTO t [(c, …)] VALUES (literal, …), …
        UPDATE t SET c = literal, … [WHERE test AND …]
        DELETE FROM t [WHERE test AND …]
        SELECT item, … [FROM t [WHERE test AND …]]                                                -/

namespace SqlGateway.Engine

namespace Reader

/-- Tests joined by `AND`. -/
def tests : Nat → Reader (List (String × Test))
  | 0 => return []
  | fuel + 1 => do
    let (column, _) ← name
    let test ← if ← words? ["IS", "NULL"] then pure Test.isNull else do
      mark '='
      let cell ← literal
      pure (Test.equals (cell.toValue false))
    if ← word? "AND" then return (column, test) :: (← tests fuel) else return [(column, test)]

/-- A condition, which may be left out. -/
def condition : Reader (List (String × Test)) := do
  if ← word? "WHERE" then tests (← get).length else return []

/-- One item of a selection: all columns, one column, or a literal. -/
def item : Reader (Option String) := do
  if ← mark? '*' then return none
  let isName ← peek fun l => match l.token with
    | .word w => !(["NULL", "TRUE", "FALSE"].contains (Text.upper w))
    | .name _ => true
    | _ => false
  if isName then return some (← name).1
  else
    let _ ← literal
    return none

/-- One statement. -/
def command : Reader Command := do
  if ← word? "CREATE" then
    word "TABLE"
    let ifAbsent ← words? ["IF", "NOT", "EXISTS"]
    let (table, written) ← name
    mark '('
    let d ← definition (← get).length { table }
    mark ')'
    return .create ifAbsent written
      { name := table, columns := d.columns, primaryKey := d.primaryKey, keys := d.keys }
  else if ← word? "DROP" then
    word "TABLE"
    let ifPresent ← words? ["IF", "EXISTS"]
    return .drop ifPresent (← name).1
  else if ← word? "INSERT" then
    let onConflict : OnConflict ←
      if ← word? "OR" then
        if ← word? "IGNORE" then pure .ignore
        else if ← word? "REPLACE" then pure .replace
        else do word "ABORT"; pure .abort
      else pure .abort
    word "INTO"
    let (table, _) ← name
    let columns ← if ← peek (Lexeme.isMark '(') then some <$> parenthesized name else pure none
    word "VALUES"
    let rows ← separated (parenthesized literal) (← get).length
    return .insert onConflict table (columns.map fun cs => cs.map Prod.fst) rows
  else if ← word? "UPDATE" then
    let (table, _) ← name
    word "SET"
    let cells ← separated (do
      let (column, _) ← name
      mark '='
      return (column, ← literal)) (← get).length
    return .update table cells (← condition)
  else if ← word? "DELETE" then
    word "FROM"
    let (table, _) ← name
    return .delete table (← condition)
  else if ← word? "SELECT" then
    let items ← separated item (← get).length
    if ← word? "FROM" then
      let (table, _) ← name
      let tests ← condition
      return .select (items.filterMap id ++ tests.map Prod.fst) (some table)
    else return .select (items.filterMap id) none
  else stop

/-- A statement up to its semicolon. -/
def statement : Reader Command := do
  let c ← command
  if !(← mark? ';') && !(← get).isEmpty then stop
  return c

end Reader

namespace Database

/-- Carry out the statements of a list of lexemes; of a script with a fault, those before it. -/
def runLexemes : Nat → Database → List Lexeme → Option Fault × Database
  | 0, db, _ => (none, db)
  | fuel + 1, db, ls =>
    match ls.dropWhile (Lexeme.isMark ';') with
    | [] => (none, db)
    | l :: rest =>
      match Reader.statement (l :: rest) with
      | .error f => (some f, db)
      | .ok (c, rest) =>
        match db.carryOut c with
        | .error f => (some f, db)
        | .ok db => runLexemes fuel db rest

/-- Carry out a script. -/
def runScript (db : Database) (script : String) : Option Fault × Database :=
  let ls := Lexeme.ofText script
  runLexemes (ls.length + 1) db ls

end Database

end SqlGateway.Engine
