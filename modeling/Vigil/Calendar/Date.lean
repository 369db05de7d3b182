/-!
# Calendar — Date

Dates of the Gregorian calendar, extended to all years, and their numbering by days: `Date.days`
counts from 1970-01-01 and `Date.ofDays` reads a day number back.
-/

namespace Vigil

/-- A year, a month from 1 and a day from 1. -/
structure Date where
  year : Int
  month : Nat
  day : Nat
  deriving DecidableEq, Repr

namespace Date

/-- Whether February has 29 days. -/
def isLeap (year : Int) : Bool := year % 4 = 0 && (year % 100 ≠ 0 || year % 400 = 0)

/-- The lengths of the twelve months. -/
def monthLengths (year : Int) : List Nat :=
  [31, if isLeap year then 29 else 28, 31, 30, 31, 30, 31, 31, 30, 31, 30, 31]

/-- The days from the start of year 0 to the start of `year`. -/
def daysBeforeYear (year : Int) : Int :=
  365 * year + (year + 3) / 4 - (year + 99) / 100 + (year + 399) / 400

/-- The day number of 1970-01-01, counted from the start of year 0. -/
def epoch : Int := 719528

/-- A date that the calendar has. -/
def valid (d : Date) : Bool :=
  1 ≤ d.month && d.month ≤ 12 && 1 ≤ d.day && d.day ≤ ((monthLengths d.year)[d.month - 1]?).getD 0

/-- The days from 1970-01-01 to `d`. -/
def days (d : Date) : Int :=
  daysBeforeYear d.year +
    (((monthLengths d.year).take (d.month - 1)).foldr (· + ·) 0 + (d.day - 1) : Nat) - epoch

/-- The year that day `n` lies in, counted from the start of year 0: four centuries of mean
length give it up to one. -/
def yearOf (n : Int) : Int :=
  let y := n * 400 / 146097
  if n < daysBeforeYear y then y - 1
  else if daysBeforeYear (y + 1) ≤ n then y + 1
  else y

/-- Month and day of day `n` of a year, the months having the given lengths and the first of
them being `month`. -/
def monthDay (month : Nat) : List Nat → Nat → Nat × Nat
  | [], n => (month, n + 1)
  | len :: rest, n => if n < len then (month, n + 1) else monthDay (month + 1) rest (n - len)

/-- The date `n` days after 1970-01-01. -/
def ofDays (n : Int) : Date :=
  let year := yearOf (n + epoch)
  let (month, day) := monthDay 1 (monthLengths year) (n + epoch - daysBeforeYear year).toNat
  ⟨year, month, day⟩

end Date
end Vigil
