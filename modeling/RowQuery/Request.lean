import RowQuery.Output.Schema
import RowQuery.Params

/-!
A request for a list: its parameters, the output schema of the list, and what the list states in
place of what would follow from the schema or the configuration.
-/

namespace RowQuery

/-- A request for a list. -/
structure Request where
  params : Params
  output : OutputSchema
  /-- The fields to filter by. -/
  filterable : Option (List Field) := none
  /-- The names to sort by. -/
  sortable : Option (List String) := none
  /-- The sort terms of a request that asks for none. -/
  defaultOrdering : Option (List String) := none
  /-- The parameters that are never taken for filters. -/
  nonFiltering : Option (List String) := none

end RowQuery
