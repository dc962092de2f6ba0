import RowQuery.Calendar.Timestamp
import RowQuery.Json.Basic
import RowQuery.Numeric.Integer
import RowQuery.Numeric.Shortest

/-!
The cells of a table. Values of one type compare by their order in nature, an integer with a
floating-point number as one, and a day with a moment as its first moment; nothing else compares.
Sorting puts null before everything and takes what does not compare for equal.
-/

namespace RowQuery

open Calendar (Date Timestamp)
open Numeric (Binary64)

/-- The value of a cell. -/
inductive Value where
  | null
  | bool (b : Bool)
  | int (n : Int)
  | float (x : Binary64)
  | string (s : String)
  | date (d : Date)
  | timestamp (t : Timestamp)
deriving DecidableEq

namespace Value

/-- Whether the value is null. -/
def isNull : Value → Bool
  | null => true
  | _ => false

/-- The value in text. -/
def write : Value → List Char
  | null => ['N', 'U', 'L', 'L']
  | bool true => ['t', 'r', 'u', 'e']
  | bool false => ['f', 'a', 'l', 's', 'e']
  | int n => Numeric.intDigits n
  | float x => x.plain
  | string s => s.toList
  | date d => d.write
  | timestamp t => t.write

/-- The value in text, as a string. -/
def text (v : Value) : String := String.ofList v.write

/-- The value as JSON. Days and moments are strings. -/
def toJson : Value → Json
  | null => .null
  | bool b => .bool b
  | int n => .integer n
  | float x => .ofBinary64 x
  | string s => .string s
  | date d => .string (String.ofList d.write)
  | timestamp t => .string (String.ofList t.write)

/-- How two values compare, if they do. -/
def compare? : Value → Value → Option Ordering
  | bool a, bool b => some (compare a b)
  | int a, int b => some (compare a b)
  | float a, float b => a.compare? b
  | int a, float b => (Binary64.ofInt a).compare? b
  | float a, int b => a.compare? (Binary64.ofInt b)
  | string a, string b => some (compare a b)
  | date a, date b => some (compare a.key b.key)
  | timestamp a, timestamp b => some (compare a.key b.key)
  | timestamp a, date b => some (compare a.key (Timestamp.midnight b).key)
  | date a, timestamp b => some (compare (Timestamp.midnight a).key b.key)
  | _, _ => none

/-- Whether two values are equal. Null equals nothing. -/
def equal (a b : Value) : Bool :=
  match a, b with
  | bool a, bool b => a == b
  | int a, int b => a == b
  | float a, float b => a.equal b
  | int a, float b => (Binary64.ofInt a).equal b
  | float a, int b => a.equal (Binary64.ofInt b)
  | string a, string b => a == b
  | date a, date b => a == b
  | timestamp a, timestamp b => a == b
  | timestamp a, date b => a == Timestamp.midnight b
  | date a, timestamp b => Timestamp.midnight a == b
  | _, _ => false

/-- How two values compare for sorting. -/
def sortCompare (a b : Value) : Ordering :=
  match a.isNull, b.isNull with
  | true, true => .eq
  | true, false => .lt
  | false, true => .gt
  | false, false => (compare? a b).getD .eq

end Value

end RowQuery
