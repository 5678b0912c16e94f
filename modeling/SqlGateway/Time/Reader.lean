import SqlGateway.Time.Moment
import SqlGateway.Number.Integer
import SqlGateway.Text.Blank

/-! Reading dates, times and moments.

    A layout is a list of parts, each a number, a literal, a gap or an ending of its own. Numbers
    take blanks in front and at most as many digits as the part is wide; a year with a sign takes
    any number of digits. A gap matches any blanks, none included. A layout accepts a text when its
    parts consume all of it and the numbers name an existing date and time.

        year '-' month '-' day  gap  hour ':' minute ':' second fraction
        2024  -    1   -   2         3   :   4    :   5    .25                                    -/

namespace SqlGateway.Time

open Number (isDigit digitsValue)
open Text (isBlank)

/-- One part of a layout. -/
inductive LayoutPart where
  | year
  | month
  | day
  | hour
  | minute
  | second
  /-- A point and digits, or nothing; kept to nanoseconds. -/
  | fraction
  /-- An offset from UTC: `Z`, `+02`, `+0230`, `+02:30`. -/
  | offset
  | gap
  | literal (c : Char)
  deriving DecidableEq, Repr

/-- The numbers a layout has read so far. -/
structure Fields where
  year : Int := 0
  month : Nat := 1
  day : Nat := 1
  hour : Nat := 0
  minute : Nat := 0
  second : Nat := 0
  nanos : Nat := 0
  offset : Int := 0
  deriving DecidableEq, Repr

/-- Read at least `least` and at most `most` digits. -/
def readNumber? (least most : Nat) (cs : List Char) : Option (Nat × List Char) :=
  let ds := (cs.takeWhile isDigit).take most
  if ds.length < least then none else some (digitsValue 0 ds, cs.drop ds.length)

/-- Read a year: up to four digits, or a sign and any number of digits. -/
def readYear? : List Char → Option (Int × List Char)
  | '-' :: rest => (readNumber? 1 rest.length rest).map fun (n, r) => (-(n : Int), r)
  | '+' :: rest => (readNumber? 1 rest.length rest).map fun (n, r) => ((n : Int), r)
  | cs => (readNumber? 1 4 cs).map fun (n, r) => ((n : Int), r)

/-- Read the digits after the point of a second, in nanoseconds; digits past the ninth are
    skipped. -/
def readNanos? (cs : List Char) : Option (Nat × List Char) :=
  (readNumber? 1 9 cs).map fun (n, rest) =>
    (n * Nat.pow 10 (9 - (cs.length - rest.length)), rest.dropWhile isDigit)

/-- How the minutes of an offset are set apart from its hours. -/
inductive OffsetSeparator where
  /-- Exactly one colon, and the minutes are required. -/
  | colon
  /-- Any colons and blanks, and the minutes may be missing. -/
  | loose
  deriving DecidableEq

/-- The text after the separator. -/
def OffsetSeparator.skip? : OffsetSeparator → List Char → Option (List Char)
  | .colon, ':' :: rest => some rest
  | .colon, _ => none
  | .loose, cs => some (cs.dropWhile fun c => c == ':' || isBlank c)

/-- Minutes of an offset. -/
def readOffsetMinutes? (separator : OffsetSeparator) : List Char → Option (Nat × List Char)
  | [] => if separator = .loose then some (0, []) else none
  | [_] => none
  | a :: b :: rest =>
    if isDigit a && isDigit b && a.toNat < '6'.toNat then some (digitsValue 0 [a, b], rest)
    else none

/-- Offset from UTC in seconds: `Z`, or a sign, two digits of hours, a separator, two of minutes. -/
def readOffset? (separator : OffsetSeparator) : List Char → Option (Int × List Char)
  | [] => none
  | c :: rest =>
    if c = 'Z' ∨ c = 'z' then some (0, rest)
    else if c ≠ '+' ∧ c ≠ '-' ∧ c ≠ '−' then none
    else match rest with
      | a :: b :: more =>
        if isDigit a && isDigit b then do
          let minutes ← readOffsetMinutes? separator (← separator.skip? more)
          let seconds : Int := (digitsValue 0 [a, b] * 3600 + minutes.1 * 60 : Nat)
          return (if c = '+' then seconds else -seconds, minutes.2)
        else none
      | _ => none

/-- Read one part. -/
def LayoutPart.read? (fields : Fields) (cs : List Char) : LayoutPart → Option (Fields × List Char)
  | .year => (readYear? (cs.dropWhile isBlank)).map fun (n, r) => ({ fields with year := n }, r)
  | .month => (number cs).map fun (n, r) => ({ fields with month := n }, r)
  | .day => (number cs).map fun (n, r) => ({ fields with day := n }, r)
  | .hour => (number cs).map fun (n, r) => ({ fields with hour := n }, r)
  | .minute => (number cs).map fun (n, r) => ({ fields with minute := n }, r)
  | .second => (number cs).map fun (n, r) => ({ fields with second := n }, r)
  | .fraction =>
    match cs with
    | '.' :: rest => (readNanos? rest).map fun (n, r) => ({ fields with nanos := n }, r)
    | _ => some (fields, cs)
  | .offset =>
    (readOffset? .loose (cs.dropWhile isBlank)).map fun (n, r) => ({ fields with offset := n }, r)
  | .gap => some (fields, cs.dropWhile isBlank)
  | .literal c =>
    match cs with
    | d :: rest => if c = d then some (fields, rest) else none
    | [] => none
where
  /-- One or two digits after blanks. -/
  number (cs : List Char) : Option (Nat × List Char) := readNumber? 1 2 (cs.dropWhile isBlank)

/-- Read a whole text by a layout. -/
def readLayout? (layout : List LayoutPart) (fields : Fields) (cs : List Char) : Option Fields :=
  match layout with
  | [] => if cs.isEmpty then some fields else none
  | part :: rest => (part.read? fields cs).bind fun (next, more) => readLayout? rest next more

/-- `year-month-day`. -/
def dateLayout : List LayoutPart := [.year, .literal '-', .month, .literal '-', .day]

/-- `hour:minute`. -/
def minuteLayout : List LayoutPart := [.hour, .literal ':', .minute]

/-- `hour:minute:second` and a fraction. -/
def secondLayout : List LayoutPart := minuteLayout ++ [.literal ':', .second, .fraction]

namespace Fields

def date? (f : Fields) : Option Date := Date.ofCivil? ⟨f.year, f.month, f.day⟩

def clock? (f : Fields) : Option Clock := Clock.ofParts? f.hour f.minute f.second f.nanos

def moment? (f : Fields) : Option Moment := do return ⟨← f.date?, ← f.clock?⟩

/-- The moment in UTC, if the offset is less than a day and the date stays in range. -/
def utcMoment? (f : Fields) : Option Moment := do
  let m ← f.moment?
  let shifted := m.earlier f.offset
  if f.offset.natAbs < secondsPerDay ∧ shifted.date.inRange then some shifted else none

end Fields

/-- Read a date. -/
def Date.ofText? (s : String) : Option Date :=
  (readLayout? dateLayout {} s.toList).bind Fields.date?

/-- Read a time of day, with seconds or without. -/
def Clock.ofText? (s : String) : Option Clock :=
  [secondLayout, minuteLayout].findSome? fun layout =>
    (readLayout? layout {} s.toList).bind Fields.clock?

/-- Read a moment without zone: date and time apart by blanks or by `T`, without seconds, or a date
    alone, which is its midnight. -/
def Moment.ofText? (s : String) : Option Moment :=
  [dateLayout ++ .gap :: secondLayout, dateLayout ++ .literal 'T' :: secondLayout,
    dateLayout ++ .gap :: minuteLayout, dateLayout].findSome? fun layout =>
      (readLayout? layout {} s.toList).bind Fields.moment?

/-- Read the strict internet form: all widths fixed, `T`, `t` or a space in the middle, an offset
    that is `Z` or has a colon. -/
def readInternet? (cs : List Char) : Option Fields := do
  let (year, cs) ← readNumber? 4 4 cs
  let cs ← skip '-' cs
  let (month, cs) ← readNumber? 2 2 cs
  let cs ← skip '-' cs
  let (day, cs) ← readNumber? 2 2 cs
  let cs ← match cs with
    | c :: rest => if c = 'T' ∨ c = 't' ∨ c = ' ' then some rest else none
    | [] => none
  let (hour, cs) ← readNumber? 2 2 cs
  let cs ← skip ':' cs
  let (minute, cs) ← readNumber? 2 2 cs
  let cs ← skip ':' cs
  let (second, cs) ← readNumber? 2 2 cs
  let (nanos, cs) ← match cs with
    | '.' :: rest => readNanos? rest
    | _ => some (0, cs)
  let (offset, cs) ← readOffset? .colon cs
  if cs.isEmpty then some ⟨year, month, day, hour, minute, second, nanos, offset⟩ else none
where
  /-- Consume one given character. -/
  skip (c : Char) : List Char → Option (List Char)
    | d :: rest => if c = d then some rest else none
    | [] => none

/-- Read a moment with a zone, in UTC: the strict internet form, the loose form with an offset, or a
    form without zone, which is taken to be UTC. -/
def Moment.utcOfText? (s : String) : Option Moment :=
  (((readInternet? s.toList).bind Fields.utcMoment?).orElse fun _ =>
    (readLayout? (dateLayout ++ .gap :: secondLayout ++ [.offset]) {} s.toList).bind
      Fields.utcMoment?).orElse fun _ => Moment.ofText? s

end SqlGateway.Time
