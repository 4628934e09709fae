/-!
# Instants

A point in time is kept as its date and time of day at Greenwich. The Gregorian calendar is used for
all years, and the second 60 of any minute is a leap second.
-/

namespace ChangeFeed

/-! ## Dates -/

/-- The year has a 29th of February. -/
def isLeapYear (year : Int) : Bool := year % 4 = 0 && (year % 100 ≠ 0 || year % 400 = 0)

/-- The number of days of a month, counted from one. -/
def daysInMonth (year : Int) : (month : Nat) → Nat
  | 2 => if isLeapYear year then 29 else 28
  | 4 | 6 | 9 | 11 => 30
  | _ => 31

def firstYear : Int := -262143

def lastYear : Int := 262142

/-- A day of the calendar. -/
structure Date where
  year : Int
  month : Nat
  day : Nat
  year_mem : firstYear ≤ year ∧ year ≤ lastYear
  month_mem : 1 ≤ month ∧ month ≤ 12
  day_mem : 1 ≤ day ∧ day ≤ daysInMonth year month
  deriving DecidableEq, Repr

namespace Date

/-- The date with the given year, month and day, if there is one. -/
def ofParts? (year : Int) (month day : Nat) : Option Date :=
  if h : (firstYear ≤ year ∧ year ≤ lastYear) ∧ (1 ≤ month ∧ month ≤ 12) ∧
      (1 ≤ day ∧ day ≤ daysInMonth year month) then
    some ⟨year, month, day, h.1, h.2.1, h.2.2⟩
  else none

def next? (d : Date) : Option Date :=
  if d.day < daysInMonth d.year d.month then ofParts? d.year d.month (d.day + 1)
  else if d.month < 12 then ofParts? d.year (d.month + 1) 1
  else ofParts? (d.year + 1) 1 1

def previous? (d : Date) : Option Date :=
  if 1 < d.day then ofParts? d.year d.month (d.day - 1)
  else if 1 < d.month then ofParts? d.year (d.month - 1) (daysInMonth d.year (d.month - 1))
  else ofParts? (d.year - 1) 12 31

end Date

/-! ## Points in time -/

def minutesPerDay : Nat := 1440

/-- The parts of a second that are told apart. -/
def nanosPerSecond : Nat := 1000000000

/-- A point in time. -/
structure Instant where
  date : Date
  /-- The minute of the day. -/
  minute : Nat
  second : Nat
  nanos : Nat
  minute_lt : minute < minutesPerDay
  second_le : second ≤ 60
  nanos_lt : nanos < nanosPerSecond
  deriving DecidableEq, Repr

namespace Instant

/-- The point in time with the given parts, if there is one. -/
def ofParts? (date : Date) (minute second nanos : Nat) : Option Instant :=
  if h : minute < minutesPerDay ∧ second ≤ 60 ∧ nanos < nanosPerSecond then
    some ⟨date, minute, second, nanos, h.1, h.2.1, h.2.2⟩
  else none

/-- The point in time whose date and minute are those shown by a clock that is `offset` minutes
ahead of Greenwich. -/
def ofLocal? (date : Date) (minute second nanos : Nat) (offset : Int) : Option Instant :=
  let universal := (minute : Int) - offset
  if universal < 0 then
    date.previous?.bind (ofParts? · (universal + minutesPerDay).toNat second nanos)
  else if universal < minutesPerDay then ofParts? date universal.toNat second nanos
  else date.next?.bind (ofParts? · (universal - minutesPerDay).toNat second nanos)

end Instant

end ChangeFeed
