import RowQuery.Pipeline

/-!
What a list offers to its clients, and what the current request makes of it: the fields and
operators of filters, the fields of free-text search, the keys of the order. A part that has nothing
to offer is not described.
-/

namespace RowQuery

/-- What is told about a field. -/
structure FieldSummary where
  name : String
  datatype : Datatype
  advanced : Bool
deriving DecidableEq, Repr

/-- The summary of a field. -/
def Field.summary (f : Field) : FieldSummary := ⟨f.name, f.datatype, f.advanced⟩

/-- The summary as JSON. -/
def FieldSummary.toJson (f : FieldSummary) : Json :=
  .object
    [("name", .string f.name), ("datatype", .string f.datatype.name),
     ("advanced", .bool f.advanced)]

/-- What is told about an operator, as JSON. -/
def Operator.summary (op : Operator) : Json :=
  .object
    [("name", .string op.name), ("description", .string op.description),
     ("expects", .string op.expectation)]

/-- A description of one part of a list's interface. -/
inductive Description where
  /-- The fields to filter by, and the filters of the request by field. -/
  | filters (fields : List FieldSummary) (active : List (String × String))
  /-- The parameter of free-text search, the fields searched and the query of the request. -/
  | search (param : String) (fields : List FieldSummary) (query : String)
  /-- The parameter of the order, the order that is stated, the keys and those that the request
  asks for. -/
  | sort (param : String) (stated : Option (List String)) (keys : List SortKey)
      (requested : Option (List String))

namespace Description

/-- The name of the described part. -/
def kind : Description → String
  | filters .. => "expression"
  | search .. => "search"
  | sort .. => "ordering"

/-- A list of strings that may be absent, as JSON. -/
def optionalStrings (names : Option (List String)) : Json := names.elim .null .strings

/-- The members of a description. -/
def members : Description → List (String × Json)
  | filters fields active =>
    [("fields", .array (fields.map FieldSummary.toJson)),
     ("operators", .array (Operator.all.map Operator.summary)),
     ("active_filters", .array (active.map fun (field, expression) =>
       .object [("field", .string field), ("expression", .string expression)]))]
  | search param fields query =>
    [("search_param", .string param), ("fields", .array (fields.map FieldSummary.toJson)),
     ("terms", .string query)]
  | sort param stated keys requested =>
    [("ordering_param", .string param), ("default_ordering", optionalStrings stated),
     ("fields", .array (keys.map SortKey.toJson)), ("ordering", optionalStrings requested)]

/-- The description as JSON. -/
def toJson (d : Description) : Json := .object (("kind", .string d.kind) :: d.members)

end Description

namespace Filter

/-- The filters that a description reports for a request: of each field in the catalog the last
expression given. -/
def active (r : Request) (catalog : Catalog Field) : List (String × String) :=
  catalog.entries.filterMap fun f => (r.params.get? f.name).map (f.name, ·)

/-- Describes the filters. -/
def describe (r : Request) (catalog : Catalog Field) : Option Description :=
  if catalog.entries.isEmpty then none
  else some (.filters (catalog.entries.map Field.summary) (active r catalog))

end Filter

namespace Search

/-- The fields that a description reports as searched. -/
def described (catalog : Catalog Field) : List Field :=
  (searched catalog).filter fun f => f.datatype = .string || f.datatype = .integer

/-- Describes free-text search. -/
def describe (config : Config) (r : Request) (catalog : Catalog Field) : Option Description :=
  if (described catalog).isEmpty then none
  else some (.search config.searchParam ((described catalog).map Field.summary) (query config r))

end Search

namespace Sorting

/-- Describes the order. -/
def describe (config : Config) (r : Request) (catalog : Catalog SortKey) : Option Description :=
  if catalog.entries.isEmpty then none
  else
    let asked := requested config r
    some (.sort config.orderingParam r.defaultOrdering catalog.entries
      (if asked.isEmpty then none else some asked))

end Sorting

namespace Pipeline

/-- The descriptions that follow from the catalogs of a request. -/
def descriptions (p : Pipeline) (r : Request) (fields : Catalog Field) (keys : Catalog SortKey) :
    List Description :=
  [Filter.describe r fields, Search.describe p.config r fields,
    Sorting.describe p.config r keys].filterMap id

/-- Describes what a list offers. -/
def describe (p : Pipeline) (r : Request) : Except FilterError (List Description) := do
  let fields ← r.fieldCatalog
  let keys ← r.keyCatalog p.sortable
  return p.descriptions r fields keys

end Pipeline

end RowQuery
