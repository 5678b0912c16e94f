import SqlGateway.Json.Basic

/-! A JSON text as a tree that keeps what a decoder may still judge: numbers as their digits,
    strings with their validity, fields in order with repetitions. Where the text stops being JSON
    the tree ends in a `broken` leaf, so that a decoder walking the tree in order meets a value of
    the wrong kind and a malformed text in the order in which they stand.

        {"a":1,"b":[2,}   ▶   object [a ↦ 1, b ↦ array [2, broken], broken]                       -/

namespace SqlGateway.Json

open Number (isDigit digitsValue Double)

/-- Digits of a number literal. -/
structure Literal where
  negative : Bool
  whole : List Char
  /-- Digits after the point; none without a point. -/
  fraction : List Char
  hasFraction : Bool
  /-- Sign and digits of the exponent, if there is one. -/
  exponent : Option (Bool × List Char)
  deriving Repr, DecidableEq

mutual

/-- A JSON text read as far as it goes. -/
inductive Source where
  | broken
  | null
  | bool (value : Bool)
  | number (literal : Literal)
  /-- The text is missing if it holds half of a surrogate pair. -/
  | string (text : Option String)
  | array (items : List Source)
  | object (fields : List SourceField)

/-- A field of an object, or the place where the text of the object breaks. -/
inductive SourceField where
  | broken
  | field (key : Option String) (value : Source)

end

instance : Inhabited Source := ⟨.broken⟩

/-- A whole text: its first value and whether anything but blanks follows. -/
structure Document where
  root : Source
  hasTrailing : Bool

/-- Blanks between tokens. -/
def isSpace (c : Char) : Bool := c == ' ' || c == '\n' || c == '\t' || c == '\r'

def skipSpace (cs : List Char) : List Char := cs.dropWhile isSpace

/-- Value of a hexadecimal digit. -/
def hexValue? (c : Char) : Option Nat :=
  if '0' ≤ c ∧ c ≤ '9' then some (c.toNat - '0'.toNat)
  else if 'a' ≤ c ∧ c ≤ 'f' then some (c.toNat - 'a'.toNat + 10)
  else if 'A' ≤ c ∧ c ≤ 'F' then some (c.toNat - 'A'.toNat + 10)
  else none

/-- Four hexadecimal digits. -/
def readHex4? : List Char → Option (Nat × List Char)
  | a :: b :: c :: d :: rest => do
    let n := ((← hexValue? a) * 16 + (← hexValue? b)) * 256 + (← hexValue? c) * 16 + (← hexValue? d)
    return (n, rest)
  | _ => none

/-- One unit of a string: a character, half of a surrogate pair, or the end of the string. -/
inductive StringUnit where
  | char (c : Char)
  | high (unit : Nat)
  | low (unit : Nat)

/-- Character of a two-character escape. -/
def shortEscape? (c : Char) : Option Char :=
  match c with
  | '"' => some '"'
  | '\\' => some '\\'
  | '/' => some '/'
  | 'b' => some '\x08'
  | 'f' => some '\x0c'
  | 'n' => some '\n'
  | 'r' => some '\r'
  | 't' => some '\t'
  | _ => none

/-- The unit of a 16-bit code. -/
def unitOf (n : Nat) : StringUnit :=
  if 0xD800 ≤ n ∧ n < 0xDC00 then .high n
  else if 0xDC00 ≤ n ∧ n < 0xE000 then .low n
  else .char (Char.ofNat n)

/-- Units of a string after its opening quote, up to the closing one, and the rest of the text. -/
def readUnits? : Nat → List Char → List StringUnit → Option (List StringUnit × List Char)
  | 0, _, _ => none
  | fuel + 1, cs, units =>
    match cs with
    | [] => none
    | '"' :: rest => some (units.reverse, rest)
    | '\\' :: 'u' :: rest =>
      match readHex4? rest with
      | some (n, more) => readUnits? fuel more (unitOf n :: units)
      | none => none
    | '\\' :: c :: rest =>
      match shortEscape? c with
      | some e => readUnits? fuel rest (.char e :: units)
      | none => none
    | c :: rest =>
      if c = '\\' ∨ c.toNat < 0x20 then none else readUnits? fuel rest (.char c :: units)

/-- Characters of units; a high half needs the low half right after it. -/
def joinUnits? : List StringUnit → Option (List Char)
  | [] => some []
  | .char c :: rest => (joinUnits? rest).map (c :: ·)
  | .high h :: .low l :: rest =>
    (joinUnits? rest).map (Char.ofNat (0x10000 + (h - 0xD800) * 1024 + (l - 0xDC00)) :: ·)
  | .high _ :: _ => none
  | .low _ :: _ => none

/-- A string after its opening quote. -/
def readString? (cs : List Char) : Option (Option String × List Char) :=
  (readUnits? (cs.length + 1) cs []).map fun (units, rest) =>
    ((joinUnits? units).map String.ofList, rest)

/-- Exponent of a number: `e`, an optional sign, at least one digit. -/
def readExponent? : List Char → Option (Option (Bool × List Char) × List Char)
  | [] => some (none, [])
  | c :: rest =>
    if c = 'e' ∨ c = 'E' then
      let (negative, ds) := Number.splitSign rest
      let digits := ds.takeWhile isDigit
      if digits.isEmpty then none else some (some (negative, digits), ds.dropWhile isDigit)
    else some (none, c :: rest)

/-- A number: an optional minus sign, digits without leading zeros, an optional point with at least
    one digit, an optional exponent. -/
def readNumber? (cs : List Char) : Option (Literal × List Char) :=
  let (negative, body) : Bool × List Char :=
    match cs with
    | '-' :: rest => (true, rest)
    | _ => (false, cs)
  let whole := body.takeWhile isDigit
  let rest := body.dropWhile isDigit
  if whole.isEmpty || (whole.head? == some '0' && 1 < whole.length) then none
  else
    match rest with
    | '.' :: more =>
      let fraction := more.takeWhile isDigit
      if fraction.isEmpty then none
      else (readExponent? (more.dropWhile isDigit)).map fun (e, tail) =>
        (⟨negative, whole, fraction, true, e⟩, tail)
    | _ => (readExponent? rest).map fun (e, tail) => (⟨negative, whole, [], false, e⟩, tail)

/-- The rest of the text after a given word. -/
def afterWord? (word : List Char) (cs : List Char) : Option (List Char) :=
  if word.isPrefixOf cs then some (cs.drop word.length) else none

mutual

/-- Read a value. The rest of the text is missing after a broken one. -/
def readValue : Nat → List Char → Source × Option (List Char)
  | 0, _ => (.broken, none)
  | fuel + 1, cs =>
    match skipSpace cs with
    | [] => (.broken, none)
    | 'n' :: rest => word "ull".toList .null rest
    | 't' :: rest => word "rue".toList (.bool true) rest
    | 'f' :: rest => word "alse".toList (.bool false) rest
    | '"' :: rest =>
      match readString? rest with
      | some (s, more) => (.string s, some more)
      | none => (.broken, none)
    | '[' :: rest =>
      match skipSpace rest with
      | ']' :: more => (.array [], some more)
      | more => let (items, tail) := readItems fuel more; (.array items, tail)
    | '\x7b' :: rest =>
      match skipSpace rest with
      | '\x7d' :: more => (.object [], some more)
      | more => let (fields, tail) := readFields fuel more; (.object fields, tail)
    | c :: rest =>
      match readNumber? (c :: rest) with
      | some (n, more) => (.number n, some more)
      | none => (.broken, none)
where
  /-- The rest of a literal name. -/
  word (letters : List Char) (value : Source) (cs : List Char) : Source × Option (List Char) :=
    match afterWord? letters cs with
    | some more => (value, some more)
    | none => (.broken, none)

/-- Read the items of an array, the first of which is at hand. -/
def readItems : Nat → List Char → List Source × Option (List Char)
  | 0, _ => ([.broken], none)
  | fuel + 1, cs =>
    match readValue fuel cs with
    | (item, none) => ([item], none)
    | (item, some rest) =>
      match skipSpace rest with
      | ']' :: more => ([item], some more)
      | ',' :: more => let (items, tail) := readItems fuel more; (item :: items, tail)
      | _ => ([item, .broken], none)

/-- Read the fields of an object, the first of which is at hand. -/
def readFields : Nat → List Char → List SourceField × Option (List Char)
  | 0, _ => ([.broken], none)
  | fuel + 1, cs =>
    match skipSpace cs with
    | '"' :: rest =>
      match readString? rest with
      | none => ([.broken], none)
      | some (key, afterKey) =>
        match skipSpace afterKey with
        | ':' :: afterColon =>
          match readValue fuel afterColon with
          | (value, none) => ([.field key value], none)
          | (value, some more) =>
            match skipSpace more with
            | '\x7d' :: tail => ([.field key value], some tail)
            | ',' :: next =>
              let (fields, tail) := readFields fuel next; (.field key value :: fields, tail)
            | _ => ([.field key value, .broken], none)
        | _ => ([.field key .broken], none)
    | _ => ([.broken], none)

end

/-- Read a whole text. -/
def Document.ofText (s : String) : Document :=
  let cs := s.toList
  match readValue (2 * cs.length + 2) cs with
  | (root, none) => ⟨root, false⟩
  | (root, some rest) => ⟨root, !(skipSpace rest).isEmpty⟩

/-- First number that does not fit 64 bits. -/
def wordCapacity : Nat := Nat.pow 2 64

/-- Take digits into a 64-bit significand while they fit; the count says how many were taken. -/
def takeDigits (significand : Nat) (taken : Nat) : List Char → Nat × Nat
  | [] => (significand, taken)
  | c :: rest =>
    let next := 10 * significand + (c.toNat - '0'.toNat)
    if next < wordCapacity then takeDigits next (taken + 1) rest else (significand, taken)

/-- What a number literal denotes. -/
inductive Numeral where
  | int (value : Int)
  | float (value : Double)
  deriving Repr, DecidableEq

/-- Scale a float by a power of ten, in two steps of at most 10^308 where one does not suffice; none
    beyond the largest float. -/
def scaleByTen (x : Double) (exponent : Int) : Nat → Option Double
  | 0 => some x
  | fuel + 1 =>
    if exponent.natAbs ≤ 308 then
      let power := Double.ofDecimal false 1 exponent.natAbs
      if 0 ≤ exponent then
        let y := x.mul power
        if y.isFinite then some y else none
      else some (x.div power)
    else if x.bits = 0 then some x
    else if 0 ≤ exponent then none
    else scaleByTen (x.div (Double.ofDecimal false 1 308)) (exponent + 308) fuel

/-- The value of a literal; none when it is too large for a float.

    An integer that fits 64 bits, with or without sign, is exact. Any other number takes as many
    digits as fit a 64-bit significand, rounds that to a float and scales it by a power of ten. -/
def Literal.value? (l : Literal) : Option Numeral :=
  let (whole, count) := takeDigits 0 0 l.whole
  let dropped := l.whole.length - count
  if dropped = 0 ∧ !l.hasFraction ∧ l.exponent.isNone ∧
      (if l.negative then 0 < whole ∧ whole ≤ Nat.pow 2 63 else true) then
    some (.int (if l.negative then -(whole : Int) else whole))
  else
    let (significand, places) := takeDigits whole 0 l.fraction
    let before : Int := (dropped : Int) - places
    let shift : Int :=
      match l.exponent with
      | none => 0
      | some (negative, ds) =>
        let n : Int := digitsValue 0 (ds.dropWhile (· == '0') |>.take 11)
        if negative then -n else n
    let rounded := Double.ofInt significand
    let signed (x : Double) : Numeral := .float (if l.negative then x.neg else x)
    if Nat.pow 2 31 ≤ shift.natAbs then
      if significand ≠ 0 ∧ 0 < shift then none else some (signed Double.zero)
    else (scaleByTen rounded (before + shift) 8).map signed

end SqlGateway.Json
