import SqlGateway.Text.Utf8

/-! Percent encoding. A part of an address writes the characters of its encoding set, and everything
    outside ASCII, as the percent-encoded bytes of their UTF-8 form. Decoding leaves a percent sign
    alone that two hexadecimal digits do not follow. -/

namespace SqlGateway.Text

/-- Percent sign and two capital hexadecimal digits. -/
def percentByte (b : UInt8) : List Char := '%' :: (hexByte b).map Char.toUpper

/-- Encode the characters of a set and all that are not printable ASCII. -/
def percentEncode (inSet : Char → Bool) (cs : List Char) : List Char :=
  cs.flatMap fun c =>
    if c.toNat < 0x20 || 0x7E < c.toNat || inSet c then
      (String.utf8EncodeChar c).flatMap percentByte
    else [c]

/-- Bytes of a text with its percent escapes undone. -/
def percentBytes : List Char → List UInt8
  | [] => []
  | '%' :: a :: b :: rest =>
    match Json.hexValue? a, Json.hexValue? b with
    | some x, some y => (16 * x + y).toUInt8 :: percentBytes rest
    | _, _ => '%'.toNat.toUInt8 :: percentBytes (a :: b :: rest)
  | c :: rest => String.utf8EncodeChar c ++ percentBytes rest

/-- Undo the percent escapes, if the result is UTF-8. -/
def percentDecode? (s : String) : Option String := ofUtf8? (percentBytes s.toList)

/-- Split at a character. -/
def splitChars (separator : Char) : List Char → List (List Char)
  | [] => [[]]
  | c :: rest =>
    match splitChars separator rest with
    | [] => [[c]]
    | part :: parts => if c = separator then [] :: part :: parts else (c :: part) :: parts

/-- Name and value of one pair of a query string; a plus sign is a space. -/
def formPair (cs : List Char) : String × String :=
  let plain (part : List Char) : String :=
    utf8Lossy (percentBytes (part.map fun c => if c = '+' then ' ' else c))
  (plain (cs.takeWhile (· != '=')), plain ((cs.dropWhile (· != '=')).drop 1))

/-- Pairs of a query string in order; empty pairs are skipped. -/
def formPairs (query : String) : List (String × String) :=
  ((splitChars '&' query.toList).filter fun part => !part.isEmpty).map formPair

end SqlGateway.Text
