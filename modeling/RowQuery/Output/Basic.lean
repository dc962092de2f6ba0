import RowQuery.Schema

/-!
The fields that a list of rows is shown with. A field has a name of its own and may show a column of
another name; fields that are never shown, and those that show the whole row, cannot be filtered by.
-/

namespace RowQuery

open Json (Document)

/-- The kind of an output field. -/
inductive OutputKind where
  | boolean
  | integer
  | float
  | decimal
  | dateTime
  | date
  | string
  /-- A related row. -/
  | nested
  | other
deriving DecidableEq, Repr

namespace OutputKind

/-- The name of the kind. -/
def name : OutputKind → String
  | boolean => "boolean"
  | integer => "integer"
  | float => "float"
  | decimal => "decimal"
  | dateTime => "date_time"
  | date => "date"
  | string => "string"
  | nested => "nested"
  | other => "other"

/-- Every kind. -/
def all : List OutputKind :=
  [boolean, integer, float, decimal, dateTime, date, string, nested, other]

/-- The kind of the given name. -/
def named? (name : String) : Option OutputKind := all.find? fun k => k.name == name

/-- The datatype that filters assume for the kind. -/
def datatype : OutputKind → Datatype
  | boolean => .boolean
  | integer => .integer
  | float | decimal => .float
  | dateTime => .datetime
  | date | string | nested | other => .string

/-- The kind that shows a column. -/
def ofColumnKind : ColumnKind → OutputKind
  | .char | .text => string
  | .integer | .autoId => integer
  | .float => float
  | .decimal => decimal
  | .boolean | .nullBoolean => boolean
  | .date => date
  | .dateTime => dateTime
  | .relation => nested

end OutputKind

/-- An output field. -/
structure OutputField where
  name : String
  /-- The column that it shows, if its name is another one. -/
  source : Option String
  kind : OutputKind
  /-- Whether the field is read from clients but never shown. -/
  writeOnly : Bool
deriving DecidableEq, Repr

namespace OutputField

/-- The column that the field shows. -/
def accessor (f : OutputField) : String := f.source.getD f.name

/-- Whether filters can know the field: it is shown, and it is not the whole row. -/
def isDetectable (f : OutputField) : Bool := !f.writeOnly && f.source != some "*"

/-- The field that shows a column. -/
def ofColumn (c : Column) : OutputField := ⟨c.name, none, .ofColumnKind c.kind, false⟩

/-- The field that a document describes. -/
def ofDocument? (d : Document) : Option OutputField := do
  match ← d.fields? ["name", "source", "kind", "write_only"] with
  | [some name, source, some kind, writeOnly] =>
    return ⟨← name.string?, ← Document.optional? Document.string? source,
      ← kind.word?.bind OutputKind.named?, ← Document.orElse? false Document.bool? writeOnly⟩
  | _ => none

/-- The field as JSON. -/
def toJson (f : OutputField) : Json :=
  .object
    [("name", .string f.name), ("source", f.source.elim .null .string),
     ("kind", .string f.kind.name), ("write_only", .bool f.writeOnly)]

end OutputField

end RowQuery
