import RowQuery.Request

/-!
Catalogs: the fields that a request may filter by, and the keys that it may sort by. The entries of
a catalog have different names. What the request states comes first, then what its output schema
states, then what can be detected among the output fields.
-/

namespace RowQuery

/-- Entries of catalogs have names. -/
class Named (α : Type) where
  name : α → String

instance : Named Field := ⟨Field.name⟩

instance : Named SortKey := ⟨SortKey.name⟩

/-- The first name that stands in the list a second time, none of the `seen` ones standing in it. -/
def firstRepeated? (seen : List String) : List String → Option String
  | [] => none
  | name :: rest => if name ∈ seen then some name else firstRepeated? (name :: seen) rest

/-- A list of named entries to look up. -/
structure Catalog (α : Type) where
  entries : List α

namespace Catalog

variable {α : Type} [Named α]

/-- The names of the entries. -/
def names (c : Catalog α) : List String := c.entries.map Named.name

/-- The entry of the given name. -/
def get? (c : Catalog α) (name : String) : Option α := c.entries.find? fun e => Named.name e == name

/-- The catalog of the given entries; no two of them may have one name. -/
def ofList (entries : List α) : Except FilterError (Catalog α) :=
  match firstRepeated? [] (entries.map Named.name) with
  | some name => .error (.duplicateField name)
  | none => .ok ⟨entries⟩

/-- The field of the given name. -/
def require (c : Catalog Field) (name : String) : Except FilterError Field :=
  match c.get? name with
  | some f => .ok f
  | none => .error (.unknownField name c.names)

/-- The sort key of the given name. -/
def requireKey (c : Catalog SortKey) (name : String) : Except FilterError SortKey :=
  match c.get? name with
  | some k => .ok k
  | none => .error (.unknownSortKey name c.names)

end Catalog

namespace OutputSchema

/-- The catalog of fields that the output schema gives. -/
def fieldCatalog (o : OutputSchema) : Except FilterError (Catalog Field) :=
  Catalog.ofList o.filterableFields

/-- The catalog of sort keys that the output schema gives. -/
def keyCatalog (o : OutputSchema) : Except FilterError (Catalog SortKey) :=
  Catalog.ofList o.sortKeys

end OutputSchema

namespace Request

/-- The fields that the request may filter by. -/
def fieldCatalog (r : Request) : Except FilterError (Catalog Field) :=
  match r.filterable with
  | some fields => Catalog.ofList fields
  | none => r.output.fieldCatalog

/-- The names to sort by that are stated for the request, or else for every request. -/
def statedKeys (r : Request) (configured : Option (List String)) : Option (List String) :=
  r.sortable <|> configured

/-- The keys that the request may sort by. -/
def keyCatalog (r : Request) (configured : Option (List String)) :
    Except FilterError (Catalog SortKey) :=
  match r.statedKeys configured with
  | some names => Catalog.ofList (names.map SortKey.ofName)
  | none => r.output.keyCatalog

end Request

end RowQuery
