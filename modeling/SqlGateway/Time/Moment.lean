import SqlGateway.Time.Calendar

/-! Times of day and moments.

    A time of day counts whole seconds since midnight and nanoseconds within the second; a leap
    second is the 59th second of a minute with a full second of nanoseconds more. A moment is a date
    and a time of day; where a zone matters it is read in UTC. Fractions are written with three, six
    or nine digits, the fewest that are exact, or not at all. -/

namespace SqlGateway.Time

open Number (padded)

/-- Nanoseconds in a second. -/
def nanosPerSecond : Nat := 1000000000

/-- Seconds in a day. -/
def secondsPerDay : Nat := 86400

/-- A time of day. -/
structure Clock where
  seconds : Nat
  nanos : Nat
  deriving DecidableEq, Repr, Inhabited

/-- A date and a time of day. -/
structure Moment where
  date : Date
  clock : Clock
  deriving DecidableEq, Repr, Inhabited

/-- The fraction of a second, with the fewest of 0, 3, 6 and 9 digits. -/
def fractionText (nanos : Nat) : String :=
  if nanos = 0 then ""
  else if nanos % 1000000 = 0 then "." ++ padded 3 (nanos / 1000000)
  else if nanos % 1000 = 0 then "." ++ padded 6 (nanos / 1000)
  else "." ++ padded 9 nanos

namespace Clock

def midnight : Clock := ⟨0, 0⟩

def hour (c : Clock) : Nat := c.seconds / 3600

def minute (c : Clock) : Nat := c.seconds / 60 % 60

/-- Second within the minute; 60 in a leap second. -/
def second (c : Clock) : Nat := c.seconds % 60 + (if c.nanos < nanosPerSecond then 0 else 1)

/-- The time of day of an hour, a minute, a second and nanoseconds, if they are in range; second 60
    is a leap second. -/
def ofParts? (hour minute second nanos : Nat) : Option Clock :=
  if hour < 24 ∧ minute < 60 ∧ nanos < nanosPerSecond then
    if second < 60 then some ⟨hour * 3600 + minute * 60 + second, nanos⟩
    else if second = 60 then some ⟨hour * 3600 + minute * 60 + 59, nanosPerSecond + nanos⟩
    else none
  else none

/-- Text of a time of day: `12:34:56.500`. -/
def text (c : Clock) : String :=
  padded 2 c.hour ++ ":" ++ padded 2 c.minute ++ ":" ++ padded 2 c.second ++
    fractionText (c.nanos % nanosPerSecond)

/-- Whole microseconds since midnight. -/
def micros (c : Clock) : Nat := c.seconds * 1000000 + c.nanos / 1000

/-- The time of day of microseconds since midnight, counted modulo one day. -/
def ofMicros (n : Int) : Clock :=
  let day := (n % (secondsPerDay * 1000000 : Nat)).toNat
  ⟨day / 1000000, day % 1000000 * 1000⟩

end Clock

namespace Moment

/-- Seconds since 1970-01-01 00:00:00. -/
def epochSeconds (m : Moment) : Int := m.date.days * secondsPerDay + m.clock.seconds

/-- The moment of seconds since 1970-01-01 00:00:00 and nanoseconds. -/
def ofEpoch (seconds : Int) (nanos : Nat) : Moment :=
  ⟨⟨seconds / secondsPerDay⟩, ⟨(seconds % secondsPerDay).toNat, nanos⟩⟩

/-- The moment some seconds earlier, in the same second of its minute. -/
def earlier (m : Moment) (seconds : Int) : Moment :=
  ofEpoch (m.epochSeconds - seconds) m.clock.nanos

/-- Nanoseconds between 2000-01-01 00:00:00 and the moment. -/
def nanosSinceMillennium (m : Moment) : Int :=
  (m.epochSeconds - Date.millennium.days * secondsPerDay) * nanosPerSecond + m.clock.nanos

/-- Microseconds since 2000-01-01 00:00:00, cut towards zero. -/
def microsSinceMillennium (m : Moment) : Int := m.nanosSinceMillennium.tdiv 1000

/-- The moment of microseconds since 2000-01-01 00:00:00. -/
def ofMicrosSinceMillennium (micros : Int) : Moment :=
  ofEpoch (Date.millennium.days * secondsPerDay + micros / 1000000)
    ((micros % 1000000).toNat * 1000)

/-- Date and time of day apart by a space: `2024-01-02 03:04:05`. -/
def text (m : Moment) : String := m.date.text ++ " " ++ m.clock.text

/-- Date and time of day joined by `T`: `2024-01-02T03:04:05`. -/
def isoText (m : Moment) : String := m.date.text ++ "T" ++ m.clock.text

/-- The moment in UTC with a numeric offset: `2024-01-02T03:04:05+00:00`. -/
def offsetText (m : Moment) : String := m.isoText ++ "+00:00"

/-- The moment in UTC with the letter of the zone: `2024-01-02T03:04:05Z`. -/
def zuluText (m : Moment) : String := m.isoText ++ "Z"

end Moment

end SqlGateway.Time
