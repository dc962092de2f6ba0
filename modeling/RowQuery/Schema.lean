import RowQuery.Error
import RowQuery.Json.Document

/-!
Tables as the store declares them: a name, the columns with their kinds, and the column whose cells
tell rows apart. The datatype of a column is what the filters know of its kind.
-/

namespace RowQuery

open Json (Document)

/-- The type of a field's values, as far as filters care. -/
inductive Datatype where
  | string
  | integer
  | float
  | boolean
  | datetime
deriving DecidableEq, Repr

namespace Datatype

/-- The name of the datatype. -/
def name : Datatype → String
  | string => "string"
  | integer => "integer"
  | float => "float"
  | boolean => "boolean"
  | datetime => "datetime"

/-- The name of the datatype as it is shown where a field is dumped for debugging. -/
def dumped : Datatype → String
  | string => "String"
  | integer => "Integer"
  | float => "Float"
  | boolean => "Boolean"
  | datetime => "Datetime"

/-- Every datatype. -/
def all : List Datatype := [string, integer, float, boolean, datetime]

/-- The datatype of the given name. -/
def named? (name : String) : Option Datatype := all.find? fun t => t.name == name

end Datatype

/-- The kind of a column. -/
inductive ColumnKind where
  | char
  | text
  | integer
  | autoId
  | float
  | decimal
  | boolean
  | nullBoolean
  | date
  | dateTime
  /-- A reference to a row of another table. -/
  | relation
deriving DecidableEq, Repr

namespace ColumnKind

/-- The name of the kind. -/
def name : ColumnKind → String
  | char => "char"
  | text => "text"
  | integer => "integer"
  | autoId => "auto_id"
  | float => "float"
  | decimal => "decimal"
  | boolean => "boolean"
  | nullBoolean => "null_boolean"
  | date => "date"
  | dateTime => "date_time"
  | relation => "relation"

/-- Every kind. -/
def all : List ColumnKind :=
  [char, text, integer, autoId, float, decimal, boolean, nullBoolean, date, dateTime, relation]

/-- The kind of the given name. -/
def named? (name : String) : Option ColumnKind := all.find? fun k => k.name == name

/-- The datatype of a column; a relation has none. -/
def datatype? : ColumnKind → Option Datatype
  | char | text => some .string
  | integer | autoId => some .integer
  | float | decimal => some .float
  | boolean | nullBoolean => some .boolean
  | date | dateTime => some .datetime
  | relation => none

/-- What the cells of a column are expected to be. -/
def expected : ColumnKind → Expected
  | char | text => .string
  | integer | autoId | relation => .integer
  | float | decimal => .number
  | boolean | nullBoolean => .boolean
  | date => .date
  | dateTime => .datetime

/-- The kind that a document names. -/
def ofDocument? (d : Document) : Option ColumnKind := d.word?.bind named?

end ColumnKind

/-- A column. -/
structure Column where
  name : String
  kind : ColumnKind
deriving DecidableEq, Repr

namespace Column

/-- The column that a document describes. -/
def ofDocument? (d : Document) : Option Column := do
  match ← d.fields? ["name", "kind"] with
  | [some name, some kind] => return ⟨← name.string?, ← ColumnKind.ofDocument? kind⟩
  | _ => none

/-- The column as JSON. -/
def toJson (c : Column) : Json :=
  .object [("name", .string c.name), ("kind", .string c.kind.name)]

end Column

/-- The declaration of a table. -/
structure Schema where
  name : String
  primaryKey : String
  columns : List Column
deriving DecidableEq, Repr

namespace Schema

/-- The first column of the given name. -/
def column? (s : Schema) (name : String) : Option Column := s.columns.find? fun c => c.name == name

/-- The place of the first column of the given name. -/
def columnIndex? (s : Schema) (name : String) : Option Nat :=
  s.columns.findIdx? fun c => c.name == name

/-- The schema that a document describes. -/
def ofDocument? (d : Document) : Option Schema := do
  match ← d.fields? ["name", "primary_key", "columns"] with
  | [some name, some primaryKey, some columns] =>
    return ⟨← name.string?, ← primaryKey.string?, ← (← columns.items?).mapM Column.ofDocument?⟩
  | _ => none

/-- The schema as JSON. -/
def toJson (s : Schema) : Json :=
  .object
    [("name", .string s.name), ("primary_key", .string s.primaryKey),
     ("columns", .array (s.columns.map Column.toJson))]

end Schema

end RowQuery
