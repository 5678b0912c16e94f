import SqlGateway.Json.Source

/-! Universally unique identifiers: 128 bits, written as 32 lower-case hexadecimal digits in groups
    of 8, 4, 4, 4 and 12. Reading also takes the digits without hyphens, and the hyphenated form in
    braces or after `urn:uuid:`. -/

namespace SqlGateway

/-- A 128-bit identifier. -/
structure Uuid where
  value : Nat
  deriving DecidableEq, Repr

namespace Uuid

/-- Value of hexadecimal digits. -/
def digitsValue? (cs : List Char) : Option Nat :=
  cs.foldlM (fun n c => (Json.hexValue? c).map (16 * n + ·)) 0

/-- The digits of the hyphenated form, if the hyphens stand in their places. -/
def unhyphenate? (cs : List Char) : Option (List Char) :=
  let a := cs.take 8
  let b := (cs.drop 9).take 4
  let c := (cs.drop 14).take 4
  let d := (cs.drop 19).take 4
  let e := cs.drop 24
  if cs = a ++ '-' :: b ++ '-' :: c ++ '-' :: d ++ '-' :: e ∧ e.length = 12 then
    some (a ++ b ++ c ++ d ++ e)
  else none

/-- Identifier of the 32 digits, plain. -/
def ofPlain? (cs : List Char) : Option Uuid :=
  if cs.length = 32 then (digitsValue? cs).map Uuid.mk else none

/-- Identifier of the hyphenated form. -/
def ofHyphenated? (cs : List Char) : Option Uuid := (unhyphenate? cs).bind ofPlain?

/-- Read an identifier in any of its forms. -/
def ofText? (s : String) : Option Uuid :=
  let cs := s.toList
  let urn := "urn:uuid:".toList
  if cs.length = 32 then ofPlain? cs
  else if cs.head? = some '\x7b' ∧ cs.getLast? = some '\x7d' then
    ofHyphenated? (cs.drop 1).dropLast
  else if (cs.take urn.length).map Char.toLower = urn then ofHyphenated? (cs.drop urn.length)
  else ofHyphenated? cs

/-- The 32 digits. -/
def digits (u : Uuid) : List Char :=
  let ds := Nat.toDigits 16 u.value
  List.replicate (32 - ds.length) '0' ++ ds

/-- Lower-case hyphenated text. -/
def text (u : Uuid) : String :=
  let ds := u.digits
  String.ofList (ds.take 8 ++ '-' :: (ds.drop 8).take 4 ++ '-' :: (ds.drop 12).take 4 ++
    '-' :: (ds.drop 16).take 4 ++ '-' :: ds.drop 20)

/-- First of the identifiers that are counted. -/
def counted : Nat := 0x6ba7b8109dad41d180b4000000000000

/-- The identifier with a number: random version, standard variant, and the number in its last
    group. -/
def numbered (n : Nat) : Uuid := ⟨counted + n % Nat.pow 2 48⟩

end Uuid

end SqlGateway
