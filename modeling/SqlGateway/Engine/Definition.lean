import SqlGateway.Engine.Reader

/-! Definitions of tables: columns with their types and rules, and rules of the whole table. A type
    is kept as it is written; rules that nothing here looks at, such as checks, are skipped.

        id INTEGER PRIMARY KEY, name VARCHAR (20) NOT NULL, u INT REFERENCES users (id),
        UNIQUE (name, u), CHECK (u > 0)                                                           -/

namespace SqlGateway.Engine

namespace Reader

/-- Skip what stands in parentheses; `depth` of them are open. -/
def skipParentheses : Nat → List Lexeme → List Lexeme
  | _, [] => []
  | depth, l :: rest =>
    if l.isMark '(' then skipParentheses (depth + 1) rest
    else if l.isMark ')' then (if depth ≤ 1 then rest else skipParentheses (depth - 1) rest)
    else skipParentheses depth rest

/-- Words that end a type and open a rule of the column. -/
def ruleWords : List String :=
  ["CONSTRAINT", "PRIMARY", "NOT", "NULL", "UNIQUE", "DEFAULT", "REFERENCES", "CHECK", "COLLATE"]

/-- A declared type, written as it stands: words, then perhaps numbers in parentheses. -/
def declaredType : Reader String := fun ls =>
  let isTypeWord (l : Lexeme) : Bool := match l.token with
    | .word w => !ruleWords.contains (Text.upper w)
    | .name _ => true
    | _ => false
  let front := ls.takeWhile isTypeWord
  let rest := ls.drop front.length
  let sizes := match rest with
    | l :: _ =>
      if l.isMark '(' then rest.take (rest.length - (skipParentheses 0 rest).length) else []
    | [] => []
  let write (ls : List Lexeme) : String := String.join (ls.map fun l => l.gap ++ l.written)
  match front with
  | [] => .ok ("", ls)
  | l :: more => .ok (l.written ++ write (more ++ sizes), rest.drop sizes.length)

/-- What a rule of a column adds. -/
structure ColumnRules where
  column : ColumnDef
  isPrimary : Bool := false
  isUnique : Bool := false

/-- The column that a reference names. -/
def referenced : Reader Reference := do
  let (table, _) ← name
  let column ← if ← peek (Lexeme.isMark '(') then (·.head?) <$> parenthesized name else pure none
  return ⟨table, column.map Prod.fst⟩

/-- Rules of a column, up to the comma or parenthesis that ends it. -/
def columnRules : Nat → ColumnRules → Reader ColumnRules
  | 0, r => return r
  | fuel + 1, r => do
    if ← word? "CONSTRAINT" then
      let _ ← name
      columnRules fuel r
    else if ← words? ["PRIMARY", "KEY"] then
      let _ ← word? "ASC"
      let _ ← word? "AUTOINCREMENT"
      columnRules fuel { r with isPrimary := true }
    else if ← words? ["NOT", "NULL"] then
      columnRules fuel { r with column := { r.column with isRequired := true } }
    else if ← word? "NULL" then columnRules fuel r
    else if ← word? "UNIQUE" then columnRules fuel { r with isUnique := true }
    else if ← word? "DEFAULT" then
      let isOpen ← mark? '('
      let cell ← literal
      if isOpen then mark ')'
      columnRules fuel { r with column := { r.column with default := cell } }
    else if ← word? "REFERENCES" then
      let reference ← referenced
      columnRules fuel { r with column := { r.column with reference := some reference } }
    else if ← word? "COLLATE" then
      let _ ← name
      columnRules fuel r
    else if ← word? "CHECK" then
      modify (skipParentheses 0)
      columnRules fuel r
    else return r

/-- The table of a definition as far as it has been read. -/
structure Definition where
  table : String
  columns : List ColumnDef := []
  primaryKey : List String := []
  keys : List Key := []

/-- Give a column its reference. -/
def setReference (reference : Reference) (column : String) (d : Definition) : Definition :=
  { d with columns := d.columns.map fun c =>
      if sameName c.name column then { c with reference := some reference } else c }

/-- Give the table its primary key, which it does not have yet. -/
def setPrimaryKey (columns : List String) (d : Definition) : Reader Definition :=
  if d.primaryKey.isEmpty then
    return { d with primaryKey := columns, keys := d.keys ++ [⟨columns, true⟩] }
  else
    throw (statementFault ("table \"" ++ d.table ++ "\" has more than one primary key"))

/-- One entry of a definition: a column or a rule of the table. -/
def definitionEntry (d : Definition) : Reader Definition := do
  if ← word? "CONSTRAINT" then
    let _ ← name
  if ← words? ["PRIMARY", "KEY"] then
    setPrimaryKey ((← parenthesized name).map Prod.fst) d
  else if ← word? "UNIQUE" then
    let columns := (← parenthesized name).map Prod.fst
    return { d with keys := d.keys ++ [⟨columns, false⟩] }
  else if ← words? ["FOREIGN", "KEY"] then
    let columns := (← parenthesized name).map Prod.fst
    word "REFERENCES"
    let reference ← referenced
    return match columns with
      | [column] => setReference reference column d
      | _ => d
  else if ← word? "CHECK" then
    modify (skipParentheses 0)
    return d
  else
    let (column, _) ← name
    let declared ← declaredType
    let rules ← columnRules (← get).length { column := { name := column, declared } }
    let d := { d with columns := d.columns ++ [rules.column] }
    if rules.isPrimary then setPrimaryKey [column] d
    else if rules.isUnique then return { d with keys := d.keys ++ [⟨[column], false⟩] }
    else return d

/-- Entries of a definition with commas between them. -/
def definition : Nat → Definition → Reader Definition
  | 0, _ => stop
  | fuel + 1, d => do
    let d ← definitionEntry d
    if ← mark? ',' then definition fuel d else return d

end Reader

end SqlGateway.Engine
