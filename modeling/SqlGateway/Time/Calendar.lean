import SqlGateway.Number.Rounding

/-! Dates of the proleptic Gregorian calendar, kept as the count of days since 1970-01-01.

    A year that starts in March puts the leap day last, so the day within a 400-year era is a closed
    formula of the day within the year and the other way round:

        days ── +719468 ──▶ era · 146097 + day of era ──▶ year, month, day

    Years run from `firstYear` to `lastYear`; a text outside that range is no date. -/

namespace SqlGateway.Time

open Number (padded intText)

/-- A day of the calendar. -/
structure Date where
  days : Int
  deriving DecidableEq, Repr, Inhabited

/-- Year, month and day of a date. -/
structure Civil where
  year : Int
  month : Nat
  day : Nat
  deriving DecidableEq, Repr

def firstYear : Int := -262143

def lastYear : Int := 262142

/-- Every fourth year but of the centuries only every fourth. -/
def isLeapYear (year : Int) : Bool := year % 4 == 0 && (year % 100 != 0 || year % 400 == 0)

/-- Days of a month. -/
def monthLength (year : Int) (month : Nat) : Nat :=
  match month with
  | 2 => if isLeapYear year then 29 else 28
  | 4 | 6 | 9 | 11 => 30
  | _ => 31

/-- Is there such a day? -/
def Civil.isValid (c : Civil) : Bool :=
  firstYear ≤ c.year && c.year ≤ lastYear && 1 ≤ c.month && c.month ≤ 12 &&
    1 ≤ c.day && c.day ≤ monthLength c.year c.month

/-- Days since 1970-01-01 of a civil day. -/
def Civil.toDays (c : Civil) : Int :=
  let year : Int := if c.month ≤ 2 then c.year - 1 else c.year
  let era := year / 400
  let yearOfEra := year % 400
  let march : Int := ((c.month + 9) % 12 : Nat)
  let dayOfYear := (153 * march + 2) / 5 + c.day - 1
  era * 146097 + (yearOfEra * 365 + yearOfEra / 4 - yearOfEra / 100 + dayOfYear) - 719468

/-- The civil day of a count of days since 1970-01-01. -/
def Civil.ofDays (days : Int) : Civil :=
  let shifted := days + 719468
  let era := shifted / 146097
  let dayOfEra := (shifted % 146097).toNat
  let yearOfEra := (dayOfEra - dayOfEra / 1460 + dayOfEra / 36524 - dayOfEra / 146096) / 365
  let dayOfYear := dayOfEra - (365 * yearOfEra + yearOfEra / 4 - yearOfEra / 100)
  let march := (5 * dayOfYear + 2) / 153
  let month := if march < 10 then march + 3 else march - 9
  { year := era * 400 + yearOfEra + (if month ≤ 2 then 1 else 0)
    month := month
    day := dayOfYear - (153 * march + 2) / 5 + 1 }

namespace Date

def civil (d : Date) : Civil := Civil.ofDays d.days

/-- The date of a civil day, if there is such a day. -/
def ofCivil? (c : Civil) : Option Date := if c.isValid then some ⟨c.toDays⟩ else none

/-- 2000-01-01, from which the wire format counts days. -/
def millennium : Date := ⟨10957⟩

/-- Four digits for the years 0 to 9999, otherwise a sign and at least four digits. -/
def yearText (year : Int) : String :=
  if 0 ≤ year ∧ year ≤ 9999 then padded 4 year.natAbs
  else (if year < 0 then "-" else "+") ++ padded 4 year.natAbs

/-- Text of a date: `2024-02-29`. -/
def text (d : Date) : String :=
  let c := d.civil
  yearText c.year ++ "-" ++ padded 2 c.month ++ "-" ++ padded 2 c.day

/-- Does the date lie in the range of years? -/
def inRange (d : Date) : Bool := firstYear ≤ d.civil.year && d.civil.year ≤ lastYear

end Date

end SqlGateway.Time
