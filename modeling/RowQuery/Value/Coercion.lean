import RowQuery.Calendar.Reader
import RowQuery.Json.Printer
import RowQuery.Numeric.Decimal
import RowQuery.Schema
import RowQuery.Value

/-!
Values of columns read from text and from JSON. The text of a char or text column is taken as it is,
that of every other kind without the blanks at its ends. JSON strings are read like operands, so
numbers and days may be given as text; no other JSON value is forced into a kind it does not fit.
-/

namespace RowQuery

/-- Reads a truth value: its name, the first letter of it, or its digit, in any case. -/
def readBool? (cs : List Char) : Option Bool :=
  let word := String.ofList (cs.map Char.toLower)
  if word == "true" || word == "t" || word == "1" then some true
  else if word == "false" || word == "f" || word == "0" then some false
  else none

namespace ColumnKind

/-- The value that a text means in a column of the kind. -/
def read? (kind : ColumnKind) (raw : String) : Option Value :=
  let cs := Text.trim raw.toList
  match kind with
  | char | text => some (.string raw)
  | integer | autoId | relation => (Numeric.readInt64? cs).map .int
  | float | decimal => ((Numeric.readBinary64? cs).filter (·.isFinite)).map .float
  | boolean | nullBoolean => (readBool? cs).map .bool
  | date => (Calendar.Date.read? cs).map .date
  | dateTime => (Calendar.Timestamp.read? cs).map .timestamp

/-- The value that the operand of a comparison means in a column of the kind. -/
def coerce (kind : ColumnKind) (raw path : String) : Except StoreError Value :=
  match kind.read? raw with
  | some value => .ok value
  | none => .error (.typeMismatch path raw kind.expected)

end ColumnKind

/-- The truth value that an integer flag means: zero is no, any other number yes. -/
def coerceFlag (raw path : String) : Except StoreError Bool :=
  match Numeric.readInt64? (Text.trim raw.toList) with
  | some n => .ok (n ≠ 0)
  | none => .error (.typeMismatch path raw .integerFlag)

namespace Value

/-- The value that a JSON value which is no string means in a column of a kind. -/
def ofPlainJson? (json : Json) (kind : ColumnKind) : Option Value :=
  match json with
  | .null => some .null
  | .bool b =>
    match kind with
    | .boolean | .nullBoolean => some (.bool b)
    | .char | .text => some (.string json.compact)
    | _ => none
  | .integer n =>
    match kind with
    | .integer | .autoId | .relation => if Numeric.fitsInt64 n then some (.int n) else none
    | .float | .decimal => some (.float (.ofInt n))
    | .char | .text => some (.string json.compact)
    | _ => none
  | .float x =>
    match kind with
    | .float | .decimal => some (.float x)
    | .char | .text => some (.string json.compact)
    | _ => none
  | _ => none

/-- The value that a JSON value means in a column. -/
def ofJson (json : Json) (column : Column) : Except StoreError Value :=
  match json with
  | .string s => column.kind.coerce s column.name
  | _ =>
    match ofPlainJson? json column.kind with
    | some value => .ok value
    | none => .error (.typeMismatch column.name json.compact column.kind.expected)

end Value

end RowQuery
