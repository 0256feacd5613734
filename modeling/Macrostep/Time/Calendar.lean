/-
# The civil calendar

Dates of the proleptic Gregorian calendar, and the numbering of days that carries date arithmetic.
Day `0` is 1 January of year 1.  A year is found from a day number by an estimate that is off by at
most one, and the month by walking through the lengths of the months of that year.
-/

namespace Macrostep.Time

/-- Years divisible by four are leap years, except full centuries not divisible by 400. -/
def isLeapYear (year : Int) : Bool :=
  year % 4 == 0 && (year % 100 != 0 || year % 400 == 0)

/-- The lengths of the twelve months of a year. -/
def monthLengths (year : Int) : List Nat :=
  [31, if isLeapYear year then 29 else 28, 31, 30, 31, 30, 31, 31, 30, 31, 30, 31]

/-- The number of days of a month; months are counted from 1. -/
def daysInMonth (year : Int) (month : Nat) : Nat :=
  ((monthLengths year)[month - 1]?).getD 0

/-- The first year that a date can have. -/
def firstYear : Int := -262143

/-- The last year that a date can have. -/
def lastYear : Int := 262142

/-- Whether three numbers name a day of the calendar. -/
def IsDate (year : Int) (month day : Nat) : Prop :=
  firstYear ≤ year ∧ year ≤ lastYear ∧ 1 ≤ month ∧ month ≤ 12 ∧ 1 ≤ day ∧
    day ≤ daysInMonth year month

instance (year : Int) (month day : Nat) : Decidable (IsDate year month day) := by
  unfold IsDate; infer_instance

/-- A day of the calendar. -/
structure Date where
  /-- The year; year 0 is the one before year 1. -/
  year : Int
  /-- The month, from 1 to 12. -/
  month : Nat
  /-- The day of the month, from 1. -/
  day : Nat
  isDate : IsDate year month day
deriving DecidableEq

namespace Date

/-- The date with the given parts, if there is one. -/
def ofParts? (year : Int) (month day : Nat) : Option Date :=
  if h : IsDate year month day then some ⟨year, month, day, h⟩ else none

end Date

/-- The number of days from day 0 to the first day of a year. -/
def daysBeforeYear (year : Int) : Int :=
  365 * (year - 1) + (year - 1) / 4 - (year - 1) / 100 + (year - 1) / 400

/-- The number of days in a year before a month. -/
def daysBeforeMonth (year : Int) (month : Nat) : Nat :=
  ((monthLengths year).take (month - 1)).foldr (· + ·) 0

/-- The number of a date in the count of days. -/
def Date.dayNumber (d : Date) : Int :=
  daysBeforeYear d.year + daysBeforeMonth d.year d.month + d.day - 1

/-- The year that a day lies in: four centuries have 146097 days, which gives an estimate that is
at most one year away. -/
def yearOfDay (n : Int) : Int :=
  let estimate := n * 400 / 146097 + 1
  if n < daysBeforeYear estimate then estimate - 1
  else if daysBeforeYear (estimate + 1) ≤ n then estimate + 1
  else estimate

/-- Walks through stretches of given lengths: the number of whole stretches that `n` passes, and how
far it reaches into the next one. -/
def locate : List Nat → Nat → Option (Nat × Nat)
  | [], _ => none
  | length :: lengths, n =>
    if n < length then some (0, n)
    else (locate lengths (n - length)).map fun (passed, into) => (passed + 1, into)

/-- The date with a given number in the count of days, unless its year is out of range. -/
def Date.ofDayNumber? (n : Int) : Option Date := do
  let year := yearOfDay n
  let (months, days) ← locate (monthLengths year) (n - daysBeforeYear year).toNat
  Date.ofParts? year (months + 1) (days + 1)

end Macrostep.Time
