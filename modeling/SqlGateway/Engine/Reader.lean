import SqlGateway.Engine.Lexeme

/-! Readers of lexemes. A reader takes lexemes from the front of a list, or stops with a fault at the
    first one that does not fit. A reader whose name ends in a question mark may also find nothing
    and takes nothing then.

        word? "NOT"     NOT NULL , …      ▸  true, left   NULL , …
        name            "my table" ( …    ▸  my table, left   ( …
        mark '('        name )            ▸  near "name": syntax error                            -/

namespace SqlGateway.Engine

/-- Reads from the front of a list of lexemes. -/
abbrev Reader := StateT (List Lexeme) (Except Fault)

namespace Reader

/-- Reading stopped at a lexeme, or at the end. -/
def stop {α : Type} : Reader α := fun ls =>
  match ls with
  | l :: _ =>
    if l.token = .unreadable then
      .error (statementFault ("unrecognized token: \"" ++ l.written ++ "\""))
    else .error (statementFault ("near \"" ++ l.written ++ "\": syntax error"))
  | [] => .error (statementFault "incomplete input")

/-- Does the next lexeme pass? -/
def peek (p : Lexeme → Bool) : Reader Bool := fun ls => .ok ((ls.head?).any p, ls)

/-- Take the next lexeme if it passes. -/
def take? (p : Lexeme → Bool) : Reader Bool := fun ls =>
  match ls with
  | l :: rest => if p l then .ok (true, rest) else .ok (false, ls)
  | [] => .ok (false, [])

def word? (w : String) : Reader Bool := take? (Lexeme.isWord w)

def mark? (c : Char) : Reader Bool := take? (Lexeme.isMark c)

/-- The next lexeme has to pass. -/
def need (p : Lexeme → Bool) : Reader Unit := do if !(← take? p) then stop

def word (w : String) : Reader Unit := need (Lexeme.isWord w)

def mark (c : Char) : Reader Unit := need (Lexeme.isMark c)

/-- Words one after another. -/
def words (ws : List String) : Reader Unit := ws.forM word

/-- Words that may be left out together. -/
def words? : List String → Reader Bool
  | [] => return true
  | w :: ws => do
    if ← word? w then words ws; return true
    else return false

/-- A name, with the characters it is written with. -/
def name : Reader (String × String) := fun ls =>
  match ls with
  | l :: rest =>
    match l.token with
    | .word w => .ok ((w, l.written), rest)
    | .name n => .ok ((n, l.written), rest)
    | .literal (.text s) => .ok ((s, l.written), rest)
    | _ => stop ls
  | [] => stop []

/-- One or more items with commas between them. -/
def separated {α : Type} (item : Reader α) : Nat → Reader (List α)
  | 0 => return [← item]
  | fuel + 1 => do
    let x ← item
    if ← mark? ',' then return x :: (← separated item fuel) else return [x]

/-- A list of items in parentheses; the lexemes that are left bound its length. -/
def parenthesized {α : Type} (item : Reader α) : Reader (List α) := do
  mark '('
  let items ← separated item (← get).length
  mark ')'
  return items

/-- A literal; a number may have a sign. -/
def literal : Reader Cell := fun ls =>
  let negate : Cell → Cell
    | .int i => .int (-i)
    | .real x => .real x.neg
    | c => c
  match ls with
  | l :: rest =>
    match l.token, rest with
    | .literal c, _ => .ok (c, rest)
    | .mark '-', ⟨_, _, .literal c⟩ :: more => .ok (negate c, more)
    | .mark '+', ⟨_, _, .literal c⟩ :: more => .ok (c, more)
    | _, _ =>
      if l.isWord "NULL" then .ok (.null, rest)
      else if l.isWord "TRUE" then .ok (.int 1, rest)
      else if l.isWord "FALSE" then .ok (.int 0, rest)
      else stop ls
  | [] => stop []

end Reader

end SqlGateway.Engine
