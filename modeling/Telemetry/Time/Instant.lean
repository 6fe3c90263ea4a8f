import Telemetry.Time.Duration

/-!
# Instants

Days of the proleptic Gregorian calendar are counted from 1970-01-01.  Years are
counted from March there, so that the leap day is the last day of its year, and
grouped into eras of 400 years.

An instant is a day, a second of that day and nanoseconds.  From 1,000,000,000
nanoseconds on it lies in a leap second, which follows that second.  Instants
are ordered by day, second and nanoseconds.  The difference of two instants
counts a leap second that one of them lies in, by comparing seconds of day only.
-/
set_option autoImplicit false
namespace Telemetry.Calendar

structure Date where
  year : Int
  month : Nat
  day : Nat
  deriving DecidableEq, Repr

def isLeapYear (year : Int) : Bool :=
  year % 4 == 0 && (year % 100 != 0 || year % 400 == 0)

def daysInMonth (year : Int) (month : Nat) : Nat :=
  if month = 2 then if isLeapYear year then 29 else 28
  else if month = 4 ∨ month = 6 ∨ month = 9 ∨ month = 11 then 30
  else 31

def Date.valid (d : Date) : Bool :=
  1 ≤ d.month && d.month ≤ 12 && 1 ≤ d.day && d.day ≤ daysInMonth d.year d.month

def Date.toDays (d : Date) : Int :=
  let year := if d.month ≤ 2 then d.year - 1 else d.year
  let era := year / 400
  let yearOfEra := year - era * 400
  let monthFromMarch : Int := if d.month ≤ 2 then d.month + 9 else d.month - 3
  let dayOfYear := (153 * monthFromMarch + 2) / 5 + d.day - 1
  let dayOfEra := yearOfEra * 365 + yearOfEra / 4 - yearOfEra / 100 + dayOfYear
  era * 146097 + dayOfEra - 719468

def Date.ofDays (days : Int) : Date :=
  let shifted := days + 719468
  let era := shifted / 146097
  let dayOfEra := shifted - era * 146097
  let yearOfEra := (dayOfEra - dayOfEra / 1460 + dayOfEra / 36524 - dayOfEra / 146096) / 365
  let dayOfYear := dayOfEra - (365 * yearOfEra + yearOfEra / 4 - yearOfEra / 100)
  let monthFromMarch := (5 * dayOfYear + 2) / 153
  let day := dayOfYear - (153 * monthFromMarch + 2) / 5 + 1
  let month := if monthFromMarch < 10 then monthFromMarch + 3 else monthFromMarch - 9
  let year := yearOfEra + era * 400 + if month ≤ 2 then 1 else 0
  ⟨year, month.toNat, day.toNat⟩

/-- The first day that an instant can lie on, -262143-01-01. -/
def firstDay : Int := -96465292

/-- The last day that an instant can lie on, +262142-12-31. -/
def lastDay : Int := 95026236

end Telemetry.Calendar

/-! ## Instants -/

namespace Telemetry
open Calendar

/-- A point in time between the first and the last day of the calendar. -/
structure Instant where
  day : Int
  second : Nat
  nano : Nat
  firstDay_le : firstDay ≤ day
  le_lastDay : day ≤ lastDay
  second_lt : second < 86400
  nano_lt : nano < 2000000000
  deriving DecidableEq, Repr

namespace Instant

def ofParts? (day : Int) (second nano : Nat) : Option Instant :=
  if h : (firstDay ≤ day ∧ day ≤ lastDay) ∧ second < 86400 ∧ nano < 2000000000 then
    some ⟨day, second, nano, h.1.1, h.1.2, h.2.1, h.2.2⟩
  else none

def earliest : Instant := ⟨firstDay, 0, 0, by decide, by decide, by decide, by decide⟩

/-- The last instant outside leap seconds. -/
def latest : Instant :=
  ⟨lastDay, 86399, 999999999, by decide, by decide, by decide, by decide⟩

/-- The instant that many seconds and nanoseconds after 1970-01-01; a leap second is counted from the
last second of a minute only. -/
def ofEpoch? (seconds : Int) (nano : Nat) : Option Instant :=
  if 1000000000 ≤ nano ∧ seconds % 60 ≠ 59 then none
  else ofParts? (seconds / 86400) (seconds % 86400).toNat nano

def ofEpochMillis? (ms : Int) : Option Instant :=
  ofEpoch? (ms / 1000) ((ms % 1000).toNat * 1000000)

def epochSeconds (t : Instant) : Int := t.day * 86400 + t.second

/-- Whole milliseconds since 1970-01-01; beyond 999 within a leap second. -/
def epochMillis (t : Instant) : Int := t.epochSeconds * 1000 + t.nano / 1000000

def inLeapSecond (t : Instant) : Bool := 1000000000 ≤ t.nano

def rank (t : Instant) : Int := t.epochSeconds * 2000000000 + t.nano

instance : LE Instant := ⟨fun a b => a.rank ≤ b.rank⟩
instance : LT Instant := ⟨fun a b => a.rank < b.rank⟩
instance (a b : Instant) : Decidable (a ≤ b) := inferInstanceAs (Decidable (a.rank ≤ b.rank))
instance (a b : Instant) : Decidable (a < b) := inferInstanceAs (Decidable (a.rank < b.rank))

/-- The time from `b` to `a`.  A leap second that one of them lies in counts where the other has the
later second of day. -/
def since (a b : Instant) : Elapsed :=
  let seconds := (a.day - b.day) * 86400 + ((a.second : Int) - b.second)
  let leap : Int :=
    if b.second < a.second ∧ 1000000000 ≤ b.nano then 1
    else if a.second < b.second ∧ 1000000000 ≤ a.nano then -1
    else 0
  ⟨(seconds + leap) * 1000000000 + ((a.nano : Int) - b.nano)⟩

/-- Carries seconds and nanoseconds that left their range, and checks the day. -/
def carry? (day second nano : Int) : Option Instant :=
  let whole := second + nano / 1000000000
  ofParts? (day + whole / 86400) (whole % 86400).toNat (nano % 1000000000).toNat

/-- The instant later by a signed length.  An instant that stays in its leap second keeps it; one
that leaves it forward loses it, one that leaves it backward passes its start. -/
def plus? (t : Instant) (length : Elapsed) : Option Instant :=
  let seconds := length.wholeSeconds
  let nanos := length.restNanos
  let s : Int := t.second
  let f : Int := t.nano
  if f < 1000000000 then carry? t.day (s + seconds) (f + nanos)
  else if 0 < seconds ∨ (0 < nanos ∧ 2000000000 ≤ f + nanos) then
    carry? t.day (s + seconds) (f - 1000000000 + nanos)
  else if seconds < 0 then carry? t.day (s + 1 + seconds) (f - 1000000000 + nanos)
  else ofParts? t.day t.second (f + nanos).toNat

def minus? (t : Instant) (length : Elapsed) : Option Instant :=
  t.plus? ⟨-length.nanos⟩

/-! ### Text -/

def padded (width n : Nat) : String :=
  let ds := Nat.toDigits 10 n
  String.ofList (List.replicate (width - ds.length) '0' ++ ds)

def yearText (year : Int) : String :=
  if 0 ≤ year ∧ year ≤ 9999 then padded 4 year.toNat
  else (if year < 0 then "-" else "+") ++ padded 4 year.natAbs

/-- Nothing, or a point and three, six or nine digits: the fewest that are exact. -/
def fractionText (nano : Nat) : String :=
  let n := nano % 1000000000
  if n = 0 then ""
  else if n % 1000000 = 0 then "." ++ padded 3 (n / 1000000)
  else if n % 1000 = 0 then "." ++ padded 6 (n / 1000)
  else "." ++ padded 9 n

def written (separator zone : String) (t : Instant) : String :=
  let date := Date.ofDays t.day
  let second := t.second % 60 + if t.inLeapSecond then 1 else 0
  yearText date.year ++ "-" ++ padded 2 date.month ++ "-" ++ padded 2 date.day ++ separator
    ++ padded 2 (t.second / 3600) ++ ":" ++ padded 2 (t.second / 60 % 60) ++ ":" ++ padded 2 second
    ++ fractionText t.nano ++ zone

/-- The form used in documents, `2024-09-02T12:00:00.500Z`. -/
def text (t : Instant) : String := t.written "T" "Z"

/-- The form used in messages, `2024-09-02 12:00:00.500 UTC`. -/
def spacedText (t : Instant) : String := t.written " " " UTC"

end Instant
end Telemetry
