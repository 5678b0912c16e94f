import SqlGateway.Engine.Table
import SqlGateway.Text.Bytes

/-! Lexemes of a script: words, quoted names, literals and marks. Between two lexemes stand blanks
    and comments, which a lexeme keeps so that a stretch of the script can be written as it was.

        -- one row          ▸ comment, up to the end of the line
        "a ""b"" c"         ▸ name   a "b" c
        'it''s'             ▸ text   it's
        x'00ff'             ▸ bytes
        12  1.5  .5e3       ▸ numbers                                                             -/

namespace SqlGateway.Engine

inductive Token where
  | word (text : String)
  | name (text : String)
  | literal (cell : Cell)
  | mark (char : Char)
  /-- Characters that are no token. -/
  | unreadable
  deriving DecidableEq, Repr

/-- A token, the characters it is written with, and those skipped before it. -/
structure Lexeme where
  gap : String
  written : String
  token : Token
  deriving DecidableEq, Repr

namespace Lexeme

def isWordStart (c : Char) : Bool := c.isAlpha || c == '_' || 127 < c.toNat

def isWordPart (c : Char) : Bool := isWordStart c || Number.isDigit c || c == '$'

/-- Characters of a block comment after its opening, with its closing. -/
def blockComment : List Char → List Char
  | '*' :: '/' :: _ => ['*', '/']
  | c :: rest => c :: blockComment rest
  | [] => []

/-- What is skipped at the front: one blank or one comment. -/
def skipped? : List Char → Option (List Char)
  | '-' :: '-' :: rest => some ('-' :: '-' :: rest.takeWhile (· != '\n'))
  | '/' :: '*' :: rest => some ('/' :: '*' :: blockComment rest)
  | c :: _ => if Cell.isBlank c then some [c] else none
  | [] => none

/-- Characters between quotes, a doubled quote standing for one, and how many characters that took
    with the closing quote. -/
def quotedBody? (close : Char) : Nat → List Char → Option (List Char × Nat)
  | _, [] => none
  | 0, _ => none
  | fuel + 1, c :: rest =>
    if c != close then (quotedBody? close fuel rest).map fun (body, n) => (c :: body, n + 1)
    else match rest with
      | d :: more =>
        if d == close then (quotedBody? close fuel more).map fun (body, n) => (c :: body, n + 2)
        else some ([], 1)
      | [] => some ([], 1)

/-- Digits, a point, digits, an exponent with digits. -/
def numberLength (cs : List Char) : Nat :=
  let digits (xs : List Char) : Nat := (xs.takeWhile Number.isDigit).length
  let whole := digits cs
  let fraction := match cs.drop whole with
    | '.' :: rest => 1 + digits rest
    | _ => 0
  let exponent := match cs.drop (whole + fraction) with
    | e :: sign :: rest =>
      if e == 'e' || e == 'E' then
        if sign == '+' || sign == '-' then (if digits rest = 0 then 0 else 2 + digits rest)
        else if Number.isDigit sign then 1 + digits (sign :: rest) else 0
      else 0
    | _ => 0
  whole + fraction + exponent

/-- Characters that stand for nothing outside quotes. -/
def isUnreadable (c : Char) : Bool := c.toNat < 0x20 || "#\\^\x7b\x7d\x7f".toList.contains c

/-- The token at the front and how many characters it takes; the front is no blank. -/
def tokenAt? : List Char → Option (Token × Nat)
  | [] => none
  | c :: rest =>
    let quoted (close : Char) : Option (List Char × Nat) := quotedBody? close rest.length rest
    if c == '\'' then (quoted '\'').map fun (b, n) => (.literal (.text (String.ofList b)), n + 1)
    else if c == '"' then (quoted '"').map fun (b, n) => (.name (String.ofList b), n + 1)
    else if c == '\x60' then (quoted '\x60').map fun (b, n) => (.name (String.ofList b), n + 1)
    else if c == '[' then
      let body := rest.takeWhile (· != ']')
      if body.length < rest.length then some (.name (String.ofList body), body.length + 2) else none
    else if (c == 'x' || c == 'X') && rest.head? == some '\'' then
      (quotedBody? '\'' rest.length (rest.drop 1)).bind fun (b, n) =>
        (Text.ofHexChars? (b.map Char.toLower)).map fun bytes => (.literal (.blob bytes), n + 2)
    else if isWordStart c then
      let word := c :: rest.takeWhile isWordPart
      some (.word (String.ofList word), word.length)
    else if Number.isDigit c || (c == '.' && (rest.head?).any Number.isDigit) then
      let n := numberLength (c :: rest)
      (Cell.numeral? ((c :: rest).take n)).map fun cell => (.literal cell, n)
    else some (if isUnreadable c then .unreadable else .mark c, 1)

/-- The lexemes of characters; `gap` has been skipped before them. Nothing is read after a place
    where no token stands. -/
def read : Nat → List Char → List Char → List Lexeme
  | 0, _, _ => []
  | fuel + 1, gap, cs =>
    match skipped? cs with
    | some blank => read fuel (gap ++ blank) (cs.drop blank.length)
    | none =>
      match tokenAt? cs with
      | some (token, n) =>
        ⟨String.ofList gap, String.ofList (cs.take n), token⟩ :: read fuel [] (cs.drop n)
      | none =>
        if cs.isEmpty then [] else [⟨String.ofList gap, String.ofList cs, .unreadable⟩]

/-- The lexemes of a script. -/
def ofText (script : String) : List Lexeme := read (script.length + 1) [] script.toList

/-- Is the lexeme a word, in any case? -/
def isWord (word : String) (l : Lexeme) : Bool :=
  match l.token with
  | .word w => Text.upper w == word
  | _ => false

def isMark (c : Char) (l : Lexeme) : Bool := l.token == .mark c

end Lexeme

end SqlGateway.Engine
