/-!
# The calendar

Dates of the Gregorian calendar, carried on without end before and after its adoption, and the
number of days between them.  A year is taken to begin with March, so that the leap day is its last
day; four hundred years are an era of `146097` days.

## Main definitions

* `Date`, `Date.Valid`: a year, a month and a day, and whether there is such a date.
* `Date.dayNumber`: days from the first of January 1970.
* `Date.ofDayNumber`: the date that is a number of days from it.
-/

namespace ChargePoint

/-- **A date** of the calendar. -/
structure Date where
  year : Int
  month : Nat
  day : Nat
  deriving DecidableEq, Repr

namespace Date

/-- Whether a year has a leap day. -/
def isLeap (year : Int) : Bool := year % 4 == 0 && (year % 100 != 0 || year % 400 == 0)

/-- The days of a month. -/
def daysInMonth (year : Int) (month : Nat) : Nat :=
  if month = 2 then if isLeap year then 29 else 28
  else if month = 4 ∨ month = 6 ∨ month = 9 ∨ month = 11 then 30
  else 31

/-- There is such a date. -/
def Valid (date : Date) : Prop :=
  1 ≤ date.month ∧ date.month ≤ 12 ∧ 1 ≤ date.day ∧ date.day ≤ daysInMonth date.year date.month

instance (date : Date) : Decidable date.Valid :=
  inferInstanceAs (Decidable (_ ∧ _ ∧ _ ∧ _))

/-- The year that begins with March. -/
def marchYear (date : Date) : Int := if date.month ≤ 2 then date.year - 1 else date.year

/-- The month counted from March. -/
def marchMonth (date : Date) : Nat := if date.month ≤ 2 then date.month + 9 else date.month - 3

/-- The days before a month of the year that begins with March. -/
def daysBeforeMonth (marchMonth : Nat) : Nat := (153 * marchMonth + 2) / 5

/-- The days from the first of March of year `0` to that of another year. -/
def daysBeforeYear (marchYear : Int) : Int :=
  365 * marchYear + marchYear / 4 - marchYear / 100 + marchYear / 400

/-- **The day number** of a date: days from the first of January 1970, below zero before it. -/
def dayNumber (date : Date) : Int :=
  daysBeforeYear date.marchYear + daysBeforeMonth date.marchMonth + date.day - 719469

/-- The year of an era in which one of its days lies: whole centuries, whole leap cycles, whole
years, the last of each taking the day that is over. -/
def yearOfEra (dayOfEra : Nat) : Nat :=
  let century := min (dayOfEra / 36524) 3
  let dayOfCentury := dayOfEra - 36524 * century
  let cycle := dayOfCentury / 1461
  let dayOfCycle := dayOfCentury - 1461 * cycle
  100 * century + 4 * cycle + min (dayOfCycle / 365) 3

/-- **The date with a day number.** -/
def ofDayNumber (n : Int) : Date :=
  let days := n + 719468
  let era := days / 146097
  let dayOfEra := (days % 146097).toNat
  let yearOfEra := yearOfEra dayOfEra
  let dayOfYear := dayOfEra - (365 * yearOfEra + yearOfEra / 4 - yearOfEra / 100)
  let marchMonth := (5 * dayOfYear + 2) / 153
  let marchYear := 400 * era + yearOfEra
  { year := if 10 ≤ marchMonth then marchYear + 1 else marchYear
    month := if 10 ≤ marchMonth then marchMonth - 9 else marchMonth + 3
    day := dayOfYear - daysBeforeMonth marchMonth + 1 }

end Date

end ChargePoint
