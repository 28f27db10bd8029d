/-!
# Calendar dates

Years are those of the proleptic Gregorian calendar and may be negative.  A date is a year in range, a month of
it and a day of that month.
-/

namespace ProductGraph
namespace Time

/-- Whether a year has a 29 February. -/
def isLeapYear (year : Int) : Bool := year % 4 = 0 && (year % 100 ≠ 0 || year % 400 = 0)

/-- The days of a month, none for a number that is no month. -/
def daysInMonth (year : Int) (month : Nat) : Nat :=
  match month with
  | 1 | 3 | 5 | 7 | 8 | 10 | 12 => 31
  | 4 | 6 | 9 | 11 => 30
  | 2 => if isLeapYear year then 29 else 28
  | _ => 0

def minYear : Int := -262143

def maxYear : Int := 262142

/-- Whether three numbers are a date in range. -/
def isDate (year : Int) (month day : Nat) : Bool :=
  minYear ≤ year && year ≤ maxYear && 1 ≤ day && day ≤ daysInMonth year month

/-- Whether three numbers are a time of day, the second 60 standing for a leap second. -/
def isTimeOfDay (hour minute second : Nat) : Bool := hour < 24 && minute < 60 && second ≤ 60

end Time
end ProductGraph
