/-!
Integers in text. A numeral is one or more ASCII digits behind an optional sign; what is read must
fit the range asked for, and what is written has no sign but a minus and no leading zero.
-/

namespace RowQuery.Numeric

/-- Whether the character is an ASCII digit. -/
def isDigit (c : Char) : Bool := '0' ≤ c && c ≤ '9'

/-- The value of a digit. -/
def digitValue (c : Char) : Nat := c.toNat - '0'.toNat

/-- The value of a hexadecimal digit. -/
def hexValue? (c : Char) : Option Nat :=
  if '0' ≤ c && c ≤ '9' then some (c.toNat - '0'.toNat)
  else if 'a' ≤ c && c ≤ 'f' then some (c.toNat - 'a'.toNat + 10)
  else if 'A' ≤ c && c ≤ 'F' then some (c.toNat - 'A'.toNat + 10)
  else none

/-- The number that digits spell, `high` standing before them. -/
def digitsValue (high : Nat) (ds : List Char) : Nat :=
  ds.foldl (fun n d => 10 * n + digitValue d) high

/-- Reads a nonempty run of digits that is the whole text. -/
def readDigits? (cs : List Char) : Option Nat :=
  if cs.isEmpty || !cs.all isDigit then none else some (digitsValue 0 cs)

/-- Reads a numeral with an optional sign. -/
def readSigned? : List Char → Option Int
  | '-' :: ds => (readDigits? ds).map fun n => -(n : Int)
  | '+' :: ds => (readDigits? ds).map fun n => (n : Int)
  | ds => (readDigits? ds).map fun n => (n : Int)

/-- The least integer of 64 bits. -/
def minInt64 : Int := -9223372036854775808

/-- The greatest integer of 64 bits. -/
def maxInt64 : Int := 9223372036854775807

/-- The greatest natural number of 64 bits. -/
def maxNat64 : Nat := 18446744073709551615

/-- Whether the integer fits 64 bits. -/
def fitsInt64 (n : Int) : Bool := minInt64 ≤ n && n ≤ maxInt64

/-- Reads an integer of 64 bits. -/
def readInt64? (cs : List Char) : Option Int := (readSigned? cs).filter fitsInt64

/-- Reads a natural number of 64 bits; a plus sign may stand before it. -/
def readNat64? (cs : List Char) : Option Nat :=
  let read := match cs with
    | '+' :: ds => readDigits? ds
    | ds => readDigits? ds
  read.filter (fun n => n ≤ maxNat64)

/-- The decimal digits of a number. -/
def natDigits (n : Nat) : List Char := Nat.toDigits 10 n

/-- The decimal text of an integer. -/
def intDigits : Int → List Char
  | .ofNat n => natDigits n
  | .negSucc n => '-' :: natDigits (n + 1)

/-- The decimal text of an integer, as a string. -/
def intText (n : Int) : String := String.ofList (intDigits n)

/-- Reads an integer of 64 bits from a string. -/
def parseInt64? (s : String) : Option Int := readInt64? s.toList

/-- Digits padded on the left with zeros to at least `size` characters. -/
def padded (size n : Nat) : List Char :=
  let ds := natDigits n
  List.replicate (size - ds.length) '0' ++ ds

example : readInt64? "+007".toList = some 7 := by decide
example : readInt64? "-9223372036854775809".toList = none := by decide

end RowQuery.Numeric
