import SqlGateway.Number.Integer
import SqlGateway.Text.Case

/-! Media types. A kind and a subtype are tokens apart by a slash; parameters follow, each after a
    semicolon, a token with a value that is a token or stands in quotes.

        application/vnd.api+json; charset=utf-8     kind application, suffix json                 -/

namespace SqlGateway.Http

/-- May the character stand in a token? -/
def isTokenChar (c : Char) : Bool :=
  c.isAlphanum || "!#$%&+-.^_\x60|~".toList.contains c || c.toNat == 0x27

/-- The text after a closing quote. -/
def afterQuote? : List Char → Option (List Char)
  | [] => none
  | c :: rest => if c = '"' then some rest else if c.toNat < 0x20 then none else afterQuote? rest

/-- The text after the value of a parameter. -/
def afterParameter? : List Char → Option (List Char)
  | '"' :: rest => afterQuote? rest
  | value => some (value.dropWhile isTokenChar)

/-- Are these parameters, the first semicolon left out? `fuel` bounds their number. -/
def areParameters : Nat → List Char → Bool
  | 0, _ => false
  | fuel + 1, cs =>
    let cs := cs.dropWhile (· == ' ')
    if cs.isEmpty then true
    else match cs.takeWhile isTokenChar, cs.dropWhile isTokenChar with
      | _ :: _, '=' :: value =>
        match afterParameter? value with
        | some [] => true
        | some (';' :: rest) => !(value.head? == some ';') && areParameters fuel rest
        | _ => false
      | _, _ => false

/-- The suffix of a subtype, after its last plus sign if something stands in front of it. -/
def suffix? (subtype : List Char) : Option (List Char) :=
  let suffix := (subtype.reverse.takeWhile (· != '+')).reverse
  if suffix.length + 1 < subtype.length then some suffix else none

/-- Is it the media type of JSON or of a format that is written in JSON? -/
def isJsonType (mediaType : String) : Bool :=
  let cs := (Text.lower mediaType).toList
  let subtype := (cs.dropWhile isTokenChar).drop 1
  let rest := subtype.dropWhile isTokenChar
  let name := subtype.takeWhile isTokenChar
  cs.takeWhile isTokenChar == "application".toList &&
    (cs.dropWhile isTokenChar).head? == some '/' &&
    (name == "json".toList || suffix? name == some "json".toList) &&
    (rest.isEmpty || rest.head? == some ';' && areParameters rest.length rest.tail)

end SqlGateway.Http
