import RowQuery.Numeric.Integer

/-!
Calendar days of the proleptic Gregorian calendar with astronomical years: the year before 1 is
0. Days run from the first one of the year -262143 to the last one of the year 262142, and their
keys number them in ascending order.
-/

namespace RowQuery.Calendar

/-- Whether the year has 366 days. -/
def isLeap (year : Int) : Bool := year % 4 = 0 && (year % 100 ≠ 0 || year % 400 = 0)

/-- The number of days of a month. -/
def daysIn (year : Int) (month : Nat) : Nat :=
  if month = 2 then if isLeap year then 29 else 28
  else if month = 4 || month = 6 || month = 9 || month = 11 then 30
  else 31

/-- The least year. -/
def minYear : Int := -262143

/-- The greatest year. -/
def maxYear : Int := 262142

/-- Whether the numbers name a calendar day. -/
def isDay (year : Int) (month day : Nat) : Bool :=
  minYear ≤ year && year ≤ maxYear && 1 ≤ month && month ≤ 12 && 1 ≤ day && day ≤ daysIn year month

/-- A calendar day. -/
structure Date where
  year : Int
  month : Nat
  day : Nat
  valid : isDay year month day = true := by decide
deriving DecidableEq

namespace Date

/-- The day of the given numbers, if there is one. -/
def ofNumbers? (year : Int) (month day : Nat) : Option Date :=
  if h : isDay year month day = true then some ⟨year, month, day, h⟩ else none

/-- The place of the day in the order of time. -/
def key (d : Date) : Int := d.year * 372 + ((d.month - 1) * 31 + (d.day - 1) : Nat)

/-- The day after. -/
def next? (d : Date) : Option Date :=
  if d.day < daysIn d.year d.month then ofNumbers? d.year d.month (d.day + 1)
  else if d.month < 12 then ofNumbers? d.year (d.month + 1) 1
  else ofNumbers? (d.year + 1) 1 1

/-- The day before. -/
def previous? (d : Date) : Option Date :=
  if 1 < d.day then ofNumbers? d.year d.month (d.day - 1)
  else if 1 < d.month then ofNumbers? d.year (d.month - 1) (daysIn d.year (d.month - 1))
  else ofNumbers? (d.year - 1) 12 31

/-- A year has at least four digits, and a sign if it is below 0 or above 9999. -/
def writeYear (year : Int) : List Char :=
  let digits := Numeric.padded 4 year.natAbs
  if year < 0 then '-' :: digits else if 9999 < year then '+' :: digits else digits

/-- The day as year, month and day with hyphens between them. -/
def write (d : Date) : List Char :=
  writeYear d.year ++ '-' :: Numeric.padded 2 d.month ++ '-' :: Numeric.padded 2 d.day

end Date

/-- The days of a month are counted as far as it has any. -/
example : Date.ofNumbers? 1900 2 29 = none ∧ (Date.ofNumbers? 2000 2 29).isSome = true := by decide

end RowQuery.Calendar
