/-!
# The calendar

Days are counted from the first of January 1970.  Dates are those of the Gregorian calendar, which
goes on without end in both directions.
-/

namespace CompilerDriver.Calendar

/-- A date and a time of the day. -/
structure Moment where
  year : Int
  /-- From 1 to 12. -/
  month : Nat
  /-- From 1 to 31. -/
  day : Nat
  hour : Nat := 0
  minute : Nat := 0
  second : Nat := 0
  nanosecond : Nat := 0
  deriving DecidableEq, Repr, Inhabited

def secondsPerDay : Int := 86400

def nanosecondsPerSecond : Int := 1000000000

def isLeapYear (year : Int) : Bool :=
  year % 4 == 0 && (year % 100 != 0 || year % 400 == 0)

/-- The days before each month of a year that is no leap year. -/
def daysBefore (year : Int) (month : Nat) : Nat :=
  let before := [0, 31, 59, 90, 120, 151, 181, 212, 243, 273, 304, 334].getD (month - 1) 0
  if isLeapYear year && 2 < month then before + 1 else before

def daysInMonth (year : Int) (month : Nat) : Nat :=
  if month = 12 then 31 else daysBefore year (month + 1) - daysBefore year month

/-- The days from the start of the count to the first of January. -/
def daysToYear (year : Int) : Int :=
  let past := year - 1
  365 * (year - 1970) + (past / 4 - past / 100 + past / 400) - (1969 / 4 - 1969 / 100 + 1969 / 400)

def daysTo (year : Int) (month day : Nat) : Int :=
  daysToYear year + daysBefore year month + day - 1

/-- The year in which a day lies. -/
def yearOf (days : Int) : Int :=
  let guess := 1970 + days / 366
  let last := 1970 + (days + 366) / 365
  let low := if days < 0 then 1970 + (days - 366) / 365 else guess
  let high := if days < 0 then 1970 + (days + 366) / 366 else last
  search 64 low high
where
  /-- The last year up to `high` that has started, from one on that has. -/
  search : Nat → Int → Int → Int
    | 0, low, _ => low
    | n + 1, low, high =>
        if high ≤ low then low
        else
          let middle := (low + high + 1) / 2
          if daysToYear middle ≤ days then search n middle high else search n low (middle - 1)

/-- The days of the year before a date. -/
def dayOfYear (m : Moment) : Nat := daysBefore m.year m.month + m.day - 1

/-- The day of the week from 0, which is a Sunday. -/
def weekdayOf (days : Int) : Nat := ((days + 4) % 7).toNat

namespace Moment

def days (m : Moment) : Int := daysTo m.year m.month m.day

def weekday (m : Moment) : Nat := weekdayOf m.days

def secondsOfDay (m : Moment) : Nat := m.hour * 3600 + m.minute * 60 + m.second

/-- The seconds since the start of the count. -/
def seconds (m : Moment) : Int := m.days * secondsPerDay + m.secondsOfDay

/-- The nanoseconds since the start of the count. -/
def instant (m : Moment) : Int := m.seconds * nanosecondsPerSecond + m.nanosecond

/-- The date and the time of so many nanoseconds since the start of the count. -/
def ofInstant (nanoseconds : Int) : Moment :=
  let seconds := nanoseconds / nanosecondsPerSecond
  let days := seconds / secondsPerDay
  let time := (seconds % secondsPerDay).toNat
  let year := yearOf days
  let rest := (days - daysToYear year).toNat
  let month := ((List.range 12).filter fun m => daysBefore year (m + 1) ≤ rest).length
  { year := year
    month := month
    day := rest - daysBefore year month + 1
    hour := time / 3600
    minute := time / 60 % 60
    second := time % 60
    nanosecond := (nanoseconds % nanosecondsPerSecond).toNat }

/-- A date in which the parts may lie beyond their bounds, put right. -/
def normalized (year month day hour minute second : Int) (nanosecond : Nat) : Moment :=
  let months := year * 12 + (month - 1)
  let first := daysTo (months / 12) ((months % 12).toNat + 1) 1
  let seconds := (first + day - 1) * secondsPerDay + hour * 3600 + minute * 60 + second
  ofInstant (seconds * nanosecondsPerSecond + nanosecond)

end Moment

/-! ## Names -/

def weekdays : List String :=
  ["Sunday", "Monday", "Tuesday", "Wednesday", "Thursday", "Friday", "Saturday"]

def months : List String :=
  ["January", "February", "March", "April", "May", "June", "July", "August", "September",
    "October", "November", "December"]

def shortName (name : String) : String := String.ofList (name.toList.take 3)

end CompilerDriver.Calendar
