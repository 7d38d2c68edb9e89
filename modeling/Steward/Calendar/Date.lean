/-!
Dates of the proleptic Gregorian calendar between the years -262143 and 262142, as day numbers
counted from 1970-01-01. A `Date` carries the proof that it lies in this range, so stepping past
either end has to say what happens: `next?` answers `none`.
-/
namespace Steward.Calendar

def isLeap (year : Int) : Bool :=
  year % 4 = 0 && (year % 100 ≠ 0 || year % 400 = 0)

def monthLengths (year : Int) : List Nat :=
  [31, if isLeap year then 29 else 28, 31, 30, 31, 30, 31, 31, 30, 31, 30, 31]

/-- Length of month 1 to 12, and 0 for a month that does not exist. -/
def daysInMonth (year : Int) (month : Nat) : Nat :=
  if month = 0 then 0 else (monthLengths year).getD (month - 1) 0

/-- Days from 1 January of year 1 to 1 January of `year`. -/
def daysBeforeYear (year : Int) : Int :=
  let p := year - 1
  365 * p + p / 4 - p / 100 + p / 400

def daysBeforeMonth (year : Int) (month : Nat) : Nat :=
  ((monthLengths year).take (month - 1)).foldl (· + ·) 0

/-- Day number of a year, month and day, counted from 1970-01-01. -/
def dayNumber (year : Int) (month day : Nat) : Int :=
  daysBeforeYear year + daysBeforeMonth year month + day - 719163

def firstDay : Int := -96465292

def lastDay : Int := 95026236

structure Date where
  number : Int
  first_le : firstDay ≤ number
  le_last : number ≤ lastDay
deriving DecidableEq

namespace Date

theorem ext {a b : Date} (h : a.number = b.number) : a = b := by
  cases a; cases b; simp_all

def ofNumber? (n : Int) : Option Date :=
  if h : firstDay ≤ n ∧ n ≤ lastDay then some ⟨n, h.1, h.2⟩ else none

/-- Whether the month has that day; the year's range is checked apart. -/
def Exists (year : Int) (month day : Nat) : Prop :=
  1 ≤ day ∧ day ≤ daysInMonth year month

instance (year : Int) (month day : Nat) : Decidable (Exists year month day) :=
  inferInstanceAs (Decidable (_ ∧ _))

def ofYearMonthDay? (year : Int) (month day : Nat) : Option Date :=
  if Exists year month day then ofNumber? (dayNumber year month day) else none

def next? (d : Date) : Option Date := ofNumber? (d.number + 1)

/-- Sunday is 0, Saturday is 6. -/
def weekday (d : Date) : Nat := ((d.number + 4) % 7).toNat

/-- The year whose first day is the latest one at or before day `n`. The estimate from the mean
length of a year is off by one at most. -/
def yearOf (n : Int) : Int :=
  let estimate := (400 * (n + 719162)) / 146097 + 1
  if dayNumber (estimate + 1) 1 1 ≤ n then estimate + 1
  else if dayNumber estimate 1 1 ≤ n then estimate
  else estimate - 1

/-- Month and day of month of the day with the given place in its year, counted from 0. -/
def monthDay : List Nat → Nat → Nat → Nat × Nat
  | [], month, place => (month, place + 1)
  | length :: rest, month, place =>
    if place < length then (month, place + 1) else monthDay rest (month + 1) (place - length)

def year (d : Date) : Int := yearOf d.number

def month (d : Date) : Nat :=
  (monthDay (monthLengths d.year) 1 (d.number - dayNumber d.year 1 1).toNat).1

def day (d : Date) : Nat :=
  (monthDay (monthLengths d.year) 1 (d.number - dayNumber d.year 1 1).toNat).2

/-- 1 January 1970. -/
def epoch : Date := ⟨0, by decide, by decide⟩

/-- The first day of the calendar. -/
def earliest : Date := ⟨firstDay, by decide, by decide⟩

end Date
end Steward.Calendar
