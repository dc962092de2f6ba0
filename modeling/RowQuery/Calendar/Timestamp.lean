import RowQuery.Calendar.Date

/-!
Moments: a day, a second of it and a fraction in nanoseconds. A fraction of a second or more stands
for a leap second, which can only follow the last second of a minute and is written as second 60.
-/

namespace RowQuery.Calendar

/-- The number of seconds of a day. -/
def secondsPerDay : Nat := 86400

/-- The number of nanoseconds of a second. -/
def nanosPerSecond : Nat := 1000000000

/-- Whether the numbers name a moment of a day. -/
def isMoment (second nano : Nat) : Bool :=
  second < secondsPerDay && (nano < nanosPerSecond || nano < 2 * nanosPerSecond && second % 60 = 59)

/-- A moment. -/
structure Timestamp where
  date : Date
  second : Nat
  nano : Nat
  valid : isMoment second nano = true := by decide
deriving DecidableEq

namespace Timestamp

/-- The moment of the given numbers, if there is one. -/
def ofNumbers? (date : Date) (second nano : Nat) : Option Timestamp :=
  if h : isMoment second nano = true then some ⟨date, second, nano, h⟩ else none

/-- The moment of a day's hour, minute, second and fraction; second 60 is a leap second. -/
def ofClock? (date : Date) (hour minute second nano : Nat) : Option Timestamp :=
  if hour < 24 && minute < 60 && second ≤ 60 && nano < nanosPerSecond then
    if second = 60 then ofNumbers? date (hour * 3600 + minute * 60 + 59) (nanosPerSecond + nano)
    else ofNumbers? date (hour * 3600 + minute * 60 + second) nano
  else none

/-- The first moment of a day. -/
def midnight (date : Date) : Timestamp := ⟨date, 0, 0, by decide⟩

/-- The place of the moment in the order of time. -/
def key (t : Timestamp) : Int :=
  (t.date.key * secondsPerDay + t.second) * (2 * nanosPerSecond) + t.nano

/-- The moment as many minutes earlier as given, which are less than a day. -/
def earlier? (t : Timestamp) (minutes : Int) : Option Timestamp :=
  let second : Int := t.second - minutes * 60
  if second < 0 then do ofNumbers? (← t.date.previous?) (second + secondsPerDay).toNat t.nano
  else if second < secondsPerDay then ofNumbers? t.date second.toNat t.nano
  else do ofNumbers? (← t.date.next?) (second - secondsPerDay).toNat t.nano

/-- A fraction has three, six or nine digits, the fewest that give it exactly. Zero is not
written. -/
def writeFraction (nano : Nat) : List Char :=
  if nano = 0 then []
  else if nano % 1000000 = 0 then '.' :: Numeric.padded 3 (nano / 1000000)
  else if nano % 1000 = 0 then '.' :: Numeric.padded 6 (nano / 1000)
  else '.' :: Numeric.padded 9 nano

/-- The moment as day and clock time with a `T` between them. -/
def write (t : Timestamp) : List Char :=
  let leap := if nanosPerSecond ≤ t.nano then 1 else 0
  t.date.write ++ 'T' :: Numeric.padded 2 (t.second / 3600)
    ++ ':' :: Numeric.padded 2 (t.second / 60 % 60)
    ++ ':' :: Numeric.padded 2 (t.second % 60 + leap)
    ++ writeFraction (t.nano % nanosPerSecond)

end Timestamp

end RowQuery.Calendar
