import EntitySearch.Number.Digits

/-!
# Calendar dates

Dates of the proleptic Gregorian calendar in a range of about a quarter of a million years to either
side of year zero, with their day-by-day neighbours and their text.
-/

namespace EntitySearch

namespace Calendar

/-- Whether a year has a 29th of February. -/
def isLeapYear (year : Int) : Bool := (year % 4 == 0 && year % 100 != 0) || year % 400 == 0

/-- The number of days of a month; none for a number that is no month. -/
def daysIn (year : Int) (month : Nat) : Nat :=
  match month with
  | 1 | 3 | 5 | 7 | 8 | 10 | 12 => 31
  | 4 | 6 | 9 | 11 => 30
  | 2 => if isLeapYear year then 29 else 28
  | _ => 0

/-- The first year. -/
def minYear : Int := -262143

/-- The last year. -/
def maxYear : Int := 262142

/-- Whether year, month and day name a day of the calendar. -/
def isDay (year : Int) (month day : Nat) : Bool :=
  minYear ≤ year && year ≤ maxYear && 1 ≤ day && day ≤ daysIn year month

end Calendar

open Calendar

/-- **A calendar date.** -/
structure Date where
  year : Int
  month : Nat
  day : Nat
  real : isDay year month day = true
  deriving DecidableEq

namespace Date

/-- The date of a year, month and day, if there is such a day. -/
def of? (year : Int) (month day : Nat) : Option Date :=
  if h : isDay year month day = true then some ⟨year, month, day, h⟩ else none

/-- The day after, if it is in the calendar. -/
def next? (d : Date) : Option Date :=
  if d.day < daysIn d.year d.month then of? d.year d.month (d.day + 1)
  else if d.month < 12 then of? d.year (d.month + 1) 1
  else of? (d.year + 1) 1 1

/-- The day before, if it is in the calendar. -/
def previous? (d : Date) : Option Date :=
  if 1 < d.day then of? d.year d.month (d.day - 1)
  else if 1 < d.month then of? d.year (d.month - 1) (daysIn d.year (d.month - 1))
  else of? (d.year - 1) 12 31

/-- The text of a year: four digits, and a sign in front of a year outside them. -/
def yearDigits (year : Int) : List Char :=
  if 0 ≤ year && year ≤ 9999 then Number.padded 4 year.natAbs
  else (if year < 0 then '-' else '+') :: Number.padded 4 year.natAbs

/-- The characters of a date: year, month and day with hyphens between them. -/
def digits (d : Date) : List Char :=
  yearDigits d.year ++ '-' :: (Number.padded 2 d.month ++ '-' :: Number.padded 2 d.day)

/-- **The text of a date**, such as `2024-02-29`. -/
def text (d : Date) : String := String.ofList d.digits

end Date

end EntitySearch
