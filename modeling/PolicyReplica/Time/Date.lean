/-
Days of the Gregorian calendar, extended to all years of a fixed range.

A day is kept as year, month and day of the month. The only arithmetic that
timestamps need is the step to a neighbouring day, because the offset of a local
time is less than a day.
-/

namespace PolicyReplica

def Date.firstYear : Int := -262143

def Date.lastYear : Int := 262142

def Date.isLeapYear (year : Int) : Bool :=
  year % 4 = 0 && (year % 100 ≠ 0 || year % 400 = 0)

/-- The number of days of a month, and zero for what is not a month. -/
def Date.daysInMonth (year : Int) (month : Nat) : Nat :=
  match month with
  | 1 | 3 | 5 | 7 | 8 | 10 | 12 => 31
  | 4 | 6 | 9 | 11 => 30
  | 2 => if Date.isLeapYear year then 29 else 28
  | _ => 0

structure Date where
  year : Int
  month : Nat
  day : Nat
  yearInRange : Date.firstYear ≤ year ∧ year ≤ Date.lastYear
  dayInMonth : 1 ≤ day ∧ day ≤ Date.daysInMonth year month
  deriving DecidableEq

namespace Date

def ofParts? (year : Int) (month day : Nat) : Option Date :=
  if yearInRange : firstYear ≤ year ∧ year ≤ lastYear then
    if dayInMonth : 1 ≤ day ∧ day ≤ daysInMonth year month then
      some { year, month, day, yearInRange, dayInMonth }
    else none
  else none

def next? (date : Date) : Option Date :=
  if date.day < daysInMonth date.year date.month then
    ofParts? date.year date.month (date.day + 1)
  else if date.month < 12 then ofParts? date.year (date.month + 1) 1
  else ofParts? (date.year + 1) 1 1

def previous? (date : Date) : Option Date :=
  if 1 < date.day then ofParts? date.year date.month (date.day - 1)
  else if 1 < date.month then
    ofParts? date.year (date.month - 1) (daysInMonth date.year (date.month - 1))
  else ofParts? (date.year - 1) 12 31

/-- A number that orders the days: later days have larger ranks. -/
def rank (date : Date) : Int :=
  (date.year * 13 + date.month) * 32 + date.day

end Date

end PolicyReplica
