import RowQuery.Field
import RowQuery.SortKey

/-!
The output schema of a list: the fields that its rows are shown with, and which of them a client may
filter and sort by, where that is stated.
-/

namespace RowQuery

/-- What the rows of a list are shown with. -/
structure OutputSchema where
  name : String
  fields : List OutputField
  /-- The fields to filter by, where they are stated. -/
  filterable : Option (List Field)
  /-- The keys to sort by, where they are stated. -/
  sortable : Option (List SortKey)

namespace OutputSchema

/-- The output schema that shows every column of a table. Relations can neither be filtered nor
sorted by. -/
def ofSchema (s : Schema) : OutputSchema :=
  ⟨s.name, s.columns.map OutputField.ofColumn, some (Field.ofSchema s), some (SortKey.ofSchema s)⟩

/-- The first output field of the given name. -/
def field? (o : OutputSchema) (name : String) : Option OutputField :=
  o.fields.find? fun f => f.name == name

/-- The fields to filter by: those stated, or else those detected among the output fields. -/
def filterableFields (o : OutputSchema) : List Field :=
  o.filterable.getD (Field.ofOutputFields o.fields)

/-- The keys to sort by: those stated, or else those detected among the output fields. -/
def sortKeys (o : OutputSchema) : List SortKey :=
  o.sortable.getD (SortKey.ofOutputFields o.fields)

end OutputSchema

end RowQuery
