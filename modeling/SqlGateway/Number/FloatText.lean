import SqlGateway.Number.Shortest
import SqlGateway.Text.Case

/-! Texts of floating-point numbers.

    A `FloatStyle` holds the decisions of one printing format: from which powers of ten on an
    exponent is written, how an integral value and the exponent look, how the values outside the
    reals are spelled and where a tie of two shortest forms goes. `FloatStyle.text` applies them to
    the shortest digits. `fixedDigits` instead rounds to a number of significant digits.

        1e21   plain ▶ 1000000000000000000000   document ▶ 1e+21   structural ▶ 1e21             -/

namespace SqlGateway.Number

/-- Decisions of a printing format. The decimal exponent of a number is that of its first digit. -/
structure FloatStyle where
  /-- Positional notation is used from this decimal exponent on … -/
  positionalFrom : Option Int
  /-- … and below this one. -/
  positionalBelow : Option Int
  /-- What follows an integral value in positional notation. -/
  integralMark : String
  /-- What stands in front of an exponent that is not negative. -/
  exponentPlus : String
  nanText : String
  infinityText : String
  tie : Tie

/-- Never an exponent and no mark on integral values. -/
def plainStyle : FloatStyle := ⟨none, none, "", "", "NaN", "inf", .up⟩

/-- An exponent from 10^16 on and below 10^-4, integral values end in `.0`. -/
def structuralStyle : FloatStyle := ⟨some (-4), some 16, ".0", "", "NaN", "inf", .up⟩

/-- Numbers of a JSON document: a signed exponent from 10^16 on and below 10^-5. -/
def documentStyle : FloatStyle := ⟨some (-5), some 16, ".0", "+", "null", "null", .toEven⟩

/-- Insert a point into digits so that `exponent` powers of ten are applied to them. -/
def positional (digits : String) (exponent : Int) (integralMark : String) : String :=
  let ds := digits.toList
  if 0 ≤ exponent then
    digits ++ String.ofList (List.replicate exponent.toNat '0') ++ integralMark
  else
    let places := (-exponent).toNat
    if places < ds.length then
      String.ofList (ds.take (ds.length - places)) ++ "." ++
        String.ofList (ds.drop (ds.length - places))
    else "0." ++ String.ofList (List.replicate (places - ds.length) '0') ++ digits

/-- One digit, a point if more follow, the rest of the digits. -/
def scientificMantissa (digits : String) : String :=
  match digits.toList with
  | first :: second :: rest => String.ofList (first :: '.' :: second :: rest)
  | _ => digits

/-- Text of a reading in a format under a style. -/
def FloatStyle.text (style : FloatStyle) (f : Format) : Reading → String
  | .nan => style.nanText
  | .infinite negative =>
    if negative && style.infinityText != "null" then "-" ++ style.infinityText
    else style.infinityText
  | .finite negative mantissa exponent =>
    let sign := if negative then "-" else ""
    if mantissa = 0 then sign ++ "0" ++ style.integralMark
    else
      let d := shortest f style.tie mantissa exponent
      let digits := natText d.digits
      let first : Int := d.exponent + digits.length - 1
      let early := style.positionalFrom.all fun lo => lo ≤ first
      let late := style.positionalBelow.all fun hi => first < hi
      if early && late then sign ++ positional digits d.exponent style.integralMark
      else
        sign ++ scientificMantissa digits ++ "e" ++
          (if first < 0 then intText first else style.exponentPlus ++ intText first)

/-- Shortest digits, always positional: `1.5`, `3`, `-0`, `NaN`, `-inf`. -/
def Double.plainText (x : Double) : String := plainStyle.text doubleFormat x.read

/-- Shortest digits as a literal of a record: `1.5`, `3.0`, `1e16`. -/
def Double.structuralText (x : Double) : String := structuralStyle.text doubleFormat x.read

/-- Shortest digits as a number of a JSON document: `1.5`, `3.0`, `1e+20`. -/
def Double.documentText (x : Double) : String := documentStyle.text doubleFormat x.read

/-- The number rounded to 15 significant digits, as a stored text: zeros at the end of the fraction
    are dropped but one, an exponent is written from 10^15 on and below 10^-4 with at least two
    digits, an infinity is `Inf`, and a zero has no sign. -/
def Double.storedText (x : Double) : String :=
  match x.read with
  | .nan => ""
  | .infinite negative => if negative then "-Inf" else "Inf"
  | .finite negative mantissa exponent =>
    let sign := if negative then "-" else ""
    if mantissa = 0 then "0.0"
    else
      let (num, den) : Nat × Nat :=
        if 0 ≤ exponent then (mantissa * Nat.pow 2 exponent.toNat, 1)
        else (mantissa, Nat.pow 2 (-exponent).toNat)
      let unit := pointPosition num den - 15
      let rounded :=
        if 0 ≤ unit then roundDiv .up num (den * Nat.pow 10 unit.toNat)
        else roundDiv .up (num * Nat.pow 10 (-unit).toNat) den
      let d := DecimalDigits.trim 20 ⟨rounded, unit⟩
      let digits := natText d.digits
      let first : Int := d.exponent + digits.length - 1
      if -4 ≤ first ∧ first < 15 then sign ++ positional digits d.exponent ".0"
      else
        let mantissaText :=
          if digits.length = 1 then digits ++ ".0" else scientificMantissa digits
        sign ++ mantissaText ++ "e" ++ (if first < 0 then "-" else "+") ++ padded 2 first.natAbs

/-- Digits of a decimal literal: an optional sign, digits with at most one point and at least one
    digit, an optional exponent. -/
structure DecimalLiteral where
  negative : Bool
  digits : Nat
  exponent : Int
  deriving DecidableEq, Repr

/-- Is the character an ASCII digit? -/
def isDigit (c : Char) : Bool := '0' ≤ c && c ≤ '9'

/-- Value of ASCII digits read from left to right after `start`. -/
def digitsValue (start : Nat) (cs : List Char) : Nat :=
  cs.foldl (fun n c => 10 * n + (c.toNat - '0'.toNat)) start

/-- Cut a sign off the front. -/
def splitSign : List Char → Bool × List Char
  | '-' :: rest => (true, rest)
  | '+' :: rest => (false, rest)
  | cs => (false, cs)

/-- Exponent part of a literal: nothing, or `e`, an optional sign and digits. -/
def readExponent? : List Char → Option Int
  | [] => some 0
  | c :: rest =>
    if c = 'e' ∨ c = 'E' then
      let (negative, ds) := splitSign rest
      if ds.isEmpty || !ds.all isDigit then none
      else
        let n := digitsValue 0 ds
        some (if negative then -(n : Int) else n)
    else none

/-- Read an unsigned decimal literal; a point may stand first or last. -/
def readUnsigned? (negative : Bool) (cs : List Char) : Option DecimalLiteral :=
  let whole := cs.takeWhile isDigit
  let rest := cs.dropWhile isDigit
  let (fraction, tail) : List Char × List Char :=
    match rest with
    | '.' :: more => (more.takeWhile isDigit, more.dropWhile isDigit)
    | _ => ([], rest)
  if whole.isEmpty && fraction.isEmpty then none
  else (readExponent? tail).map fun e =>
    ⟨negative, digitsValue (digitsValue 0 whole) fraction, e - fraction.length⟩

/-- What a text of a float names. -/
inductive FloatLiteral where
  | nan (negative : Bool)
  | infinite (negative : Bool)
  | decimal (literal : DecimalLiteral)
  deriving Repr

/-- Read a float: a decimal literal, or `inf`, `infinity`, `nan` in any case, with a sign. -/
def readFloat? (s : String) : Option FloatLiteral :=
  let (negative, cs) := splitSign s.toList
  let word := String.ofList (cs.map Char.toLower)
  if word = "nan" then some (.nan negative)
  else if word = "inf" ∨ word = "infinity" then some (.infinite negative)
  else (readUnsigned? negative cs).map .decimal

/-- Nearest 64-bit number to a literal. -/
def FloatLiteral.toDouble : FloatLiteral → Double
  | .nan negative => if negative then Double.nan.neg else Double.nan
  | .infinite negative => Double.ofReading (.infinite negative)
  | .decimal d => Double.ofDecimal d.negative d.digits d.exponent

/-- Nearest 32-bit number to a literal. -/
def FloatLiteral.toSingle : FloatLiteral → Single
  | .nan negative =>
    ⟨(singleFormat.signBit negative + singleFormat.ofReading .nan).toUInt32⟩
  | .infinite negative => ⟨(singleFormat.ofReading (.infinite negative)).toUInt32⟩
  | .decimal d => Single.ofDecimal d.negative d.digits d.exponent

end SqlGateway.Number
