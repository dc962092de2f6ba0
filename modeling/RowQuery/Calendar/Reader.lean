import RowQuery.Calendar.Timestamp
import RowQuery.Text.Blank

/-!
Days and moments in text. A day is year, month and day with hyphens between them, and blanks may
stand before each number. A moment is written in one of these forms, which are tried in this order:
the internet profile with fixed digit counts and an offset from universal time, to which it is
converted; a day and a clock time with or without seconds, joined by a `T` or by blanks; a bare day,
which means its first moment.
-/

namespace RowQuery.Calendar

-- Powers of natural numbers are the core library's own, whatever is imported besides.
attribute [local instance (high)] instPowNat

/-- A reader takes something off the front of a text and leaves the rest. -/
abbrev Reader (α : Type) : Type := List Char → Option (α × List Char)

/-- Takes off as many leading digits as there are, up to a limit. -/
def spanDigits (limit : Nat) : List Char → List Char × List Char
  | [] => ([], [])
  | c :: cs =>
    match limit with
    | 0 => ([], c :: cs)
    | limit + 1 =>
      if Numeric.isDigit c then
        let (ds, rest) := spanDigits limit cs
        (c :: ds, rest)
      else ([], c :: cs)

/-- Reads a number of at least one digit and at most as many as given. -/
def readUpTo (limit : Nat) : Reader Nat := fun cs =>
  let (ds, rest) := spanDigits limit cs
  if ds.isEmpty then none else some (Numeric.digitsValue 0 ds, rest)

/-- Reads a number of exactly as many digits as given. -/
def readExactly (count : Nat) : Reader Nat := fun cs =>
  let (ds, rest) := spanDigits count cs
  if ds.length = count then some (Numeric.digitsValue 0 ds, rest) else none

/-- Reads a given character. -/
def readChar (expected : Char) : Reader Unit
  | [] => none
  | c :: cs => if c = expected then some ((), cs) else none

/-- Reads a year: up to four digits, or a sign and any number of them. -/
def readYear : Reader Int := fun cs =>
  match Text.trimLeft cs with
  | '-' :: cs => (readUpTo cs.length cs).map fun (n, rest) => (-(n : Int), rest)
  | '+' :: cs => (readUpTo cs.length cs).map fun (n, rest) => ((n : Int), rest)
  | cs => (readUpTo 4 cs).map fun (n, rest) => ((n : Int), rest)

/-- Reads a number of one or two digits behind any blanks. -/
def readPair : Reader Nat := fun cs => readUpTo 2 (Text.trimLeft cs)

/-- Reads a day. -/
def readDate : Reader Date := fun cs => do
  let (year, cs) ← readYear cs
  let (_, cs) ← readChar '-' cs
  let (month, cs) ← readPair cs
  let (_, cs) ← readChar '-' cs
  let (day, cs) ← readPair cs
  let date ← Date.ofNumbers? year month day
  return (date, cs)

/-- Reads the digits behind a decimal point as nanoseconds; digits beyond the ninth do not count. -/
def readNanos : Reader Nat := fun cs =>
  let (ds, rest) := cs.span Numeric.isDigit
  if ds.isEmpty then none
  else
    let kept := ds.take 9
    some (Numeric.digitsValue 0 kept * 10 ^ (9 - kept.length), rest)

/-- Reads a point and the fraction behind it, or nothing if there is no point. -/
def readFraction : Reader Nat
  | '.' :: cs => readNanos cs
  | cs => some (0, cs)

/-- Reads what joins a day and a clock time: a `T`, or any number of blanks, none included. -/
def readJoint (blank : Bool) : Reader Unit := fun cs =>
  if blank then some ((), Text.trimLeft cs) else readChar 'T' cs

/-- Reads a moment in one of the four forms with a clock time and without offset. -/
def readMoment (blank seconds : Bool) : Reader Timestamp := fun cs => do
  let (date, cs) ← readDate cs
  let (_, cs) ← readJoint blank cs
  let (hour, cs) ← readPair cs
  let (_, cs) ← readChar ':' cs
  let (minute, cs) ← readPair cs
  if seconds then do
    let (_, cs) ← readChar ':' cs
    let (second, cs) ← readPair cs
    let (nano, cs) ← readFraction cs
    let moment ← Timestamp.ofClock? date hour minute second nano
    return (moment, cs)
  else do
    let moment ← Timestamp.ofClock? date hour minute 0 0
    return (moment, cs)

/-- Reads an offset from universal time in minutes. -/
def readOffset : Reader Int
  | [] => none
  | c :: cs =>
    if c = 'Z' || c = 'z' then some (0, cs)
    else if c = '+' || c = '-' || c = '\u2212' then do
      let (hours, cs) ← readExactly 2 cs
      let (_, cs) ← readChar ':' cs
      let (minutes, cs) ← readExactly 2 cs
      if hours < 24 && minutes < 60 then
        let offset : Int := (hours * 60 + minutes : Nat)
        some (if c = '+' then offset else -offset, cs)
      else none
    else none

/-- Reads a moment of the internet profile and converts it to universal time. -/
def readInternet : Reader Timestamp := fun cs => do
  let (year, cs) ← readExactly 4 cs
  let (_, cs) ← readChar '-' cs
  let (month, cs) ← readExactly 2 cs
  let (_, cs) ← readChar '-' cs
  let (day, cs) ← readExactly 2 cs
  let cs ← match cs with
    | c :: cs => if c = 'T' || c = 't' || c = ' ' then some cs else none
    | [] => none
  let (hour, cs) ← readExactly 2 cs
  let (_, cs) ← readChar ':' cs
  let (minute, cs) ← readExactly 2 cs
  let (_, cs) ← readChar ':' cs
  let (second, cs) ← readExactly 2 cs
  let (nano, cs) ← readFraction cs
  let (offset, cs) ← readOffset cs
  let date ← Date.ofNumbers? year month day
  let moment ← Timestamp.ofClock? date hour minute second nano
  let moment ← moment.earlier? offset
  return (moment, cs)

/-- What a reader reads from the whole text. -/
def readAll? {α : Type} (reader : Reader α) (cs : List Char) : Option α :=
  match reader cs with
  | some (value, []) => some value
  | _ => none

/-- The day that a text is. -/
def Date.read? (cs : List Char) : Option Date := readAll? readDate cs

/-- The moment that a text is. -/
def Timestamp.read? (cs : List Char) : Option Timestamp :=
  readAll? readInternet cs
    <|> readAll? (readMoment false true) cs
    <|> readAll? (readMoment true true) cs
    <|> readAll? (readMoment false false) cs
    <|> readAll? (readMoment true false) cs
    <|> (Date.read? cs).map Timestamp.midnight

end RowQuery.Calendar
