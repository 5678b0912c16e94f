import SqlGateway.Number.Integer

/-! JSON values and their compact text: no blanks, fields in the order of the value, integers in
    full, floats at their shortest digits, strings with the two-character escapes where there is one
    and `\u00XX` for the other control characters. -/

namespace SqlGateway

open Number (Double intText)

/-- A JSON value. -/
inductive Json where
  | null
  | bool (value : Bool)
  | int (value : Int)
  | float (value : Double)
  | str (text : String)
  | arr (items : List Json)
  | obj (fields : List (String × Json))
  deriving Repr, Inhabited, BEq

namespace Json

/-- Lower-case hexadecimal digit. -/
def hexDigit (n : Nat) : Char := if n < 10 then Char.ofNat (48 + n) else Char.ofNat (87 + n)

/-- Written form of a character inside a string. -/
def escapeChar (c : Char) : List Char :=
  if c = '"' then ['\\', '"']
  else if c = '\\' then ['\\', '\\']
  else if c = '\n' then ['\\', 'n']
  else if c = '\r' then ['\\', 'r']
  else if c = '\t' then ['\\', 't']
  else if c = '\x08' then ['\\', 'b']
  else if c = '\x0c' then ['\\', 'f']
  else if c.toNat < 0x20 then
    ['\\', 'u', '0', '0', hexDigit (c.toNat / 16), hexDigit (c.toNat % 16)]
  else [c]

/-- A string between quotes. -/
def stringText (s : String) : String :=
  String.ofList (['"'] ++ s.toList.flatMap escapeChar ++ ['"'])

mutual

/-- Compact text of a value. -/
def text : Json → String
  | .null => "null"
  | .bool b => if b then "true" else "false"
  | .int i => intText i
  | .float x => if x.isFinite then x.documentText else "null"
  | .str s => stringText s
  | .arr items => "[" ++ itemsText items ++ "]"
  | .obj fields => "\x7b" ++ fieldsText fields ++ "\x7d"

/-- Texts of items apart by commas. -/
def itemsText : List Json → String
  | [] => ""
  | [x] => text x
  | x :: rest => text x ++ "," ++ itemsText rest

/-- Texts of fields apart by commas. -/
def fieldsText : List (String × Json) → String
  | [] => ""
  | [(k, v)] => stringText k ++ ":" ++ text v
  | (k, v) :: rest => stringText k ++ ":" ++ text v ++ "," ++ fieldsText rest

end

/-- Put a field into fields sorted by key; a field of the same key is replaced. -/
def insertSorted (key : String) (value : Json) : List (String × Json) → List (String × Json)
  | [] => [(key, value)]
  | (k, v) :: rest =>
    if key = k then (key, value) :: rest
    else if key < k then (key, value) :: (k, v) :: rest
    else (k, v) :: insertSorted key value rest

/-- The value of a field of an object. -/
def get? (j : Json) (key : String) : Option Json :=
  match j with
  | .obj fields => fields.lookup key
  | _ => none

end Json

end SqlGateway
