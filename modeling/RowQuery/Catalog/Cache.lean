import RowQuery.Catalog

/-!
A store of the catalogs that output schemas give. It is looked up by what a catalog depends on: the
name and fields of the schema and what the schema states, functions by their identity. What a
request states itself never enters the store, and a schema without a catalog leaves no trace in it.
-/

namespace RowQuery

/-- What the store knows of a field that an output schema states. -/
structure FieldKey where
  name : String
  path : Option String
  builder : Option Nat
  converter : Option Nat
  datatype : Datatype
  advanced : Bool
deriving DecidableEq

/-- The key of a field: functions count by their identity. -/
def Field.key (f : Field) : FieldKey where
  name := f.name
  path := f.path?
  builder := match f.source with
    | .path _ => none
    | .custom b => some b.identity
  converter := f.converter.map Converter.identity
  datatype := f.datatype
  advanced := f.advanced

/-- What the catalogs of an output schema depend on. -/
structure OutputKey where
  name : String
  fields : List OutputField
  filterable : Option (List FieldKey)
  sortable : Option (List SortKey)
deriving DecidableEq

/-- The key of an output schema. -/
def OutputSchema.key (o : OutputSchema) : OutputKey :=
  ⟨o.name, o.fields, o.filterable.map (·.map Field.key), o.sortable⟩

/-- A catalog in the store, with the number under which it was stored. -/
structure Stored (α : Type) where
  catalog : Catalog α
  serial : Nat

/-- Catalogs by the key of their output schema. Serial numbers are never used twice. -/
structure Shelf (α : Type) where
  entries : List (OutputKey × Stored α)
  nextSerial : Nat

namespace Shelf

variable {α : Type}

/-- The shelf without catalogs. -/
def empty : Shelf α := ⟨[], 0⟩

/-- The catalog of the given key. -/
def get? (s : Shelf α) (key : OutputKey) : Option (Stored α) :=
  (s.entries.find? fun (k, _) => k == key).map (·.2)

/-- The number of catalogs. -/
def size (s : Shelf α) : Nat := s.entries.length

/-- The shelf after every catalog has been dropped. -/
def clear (s : Shelf α) : Shelf α := { s with entries := [] }

/-- The catalog of a key, which is derived and stored if it is not there yet. -/
def fetch (s : Shelf α) (key : OutputKey) (derived : Except FilterError (Catalog α)) :
    Except FilterError (Stored α) × Shelf α :=
  match s.get? key with
  | some stored => (.ok stored, s)
  | none =>
    match derived with
    | .error e => (.error e, s)
    | .ok catalog =>
      let stored := ⟨catalog, s.nextSerial⟩
      (.ok stored, ⟨s.entries ++ [(key, stored)], s.nextSerial + 1⟩)

end Shelf

/-- A catalog as it is handed out, with its number in the store if it stands there. -/
structure Shared (α : Type) where
  catalog : Catalog α
  serial : Option Nat

/-- The store of catalogs. -/
structure CatalogCache where
  fields : Shelf Field
  keys : Shelf SortKey

namespace CatalogCache

/-- The store without catalogs. -/
def empty : CatalogCache := ⟨.empty, .empty⟩

/-- The store after every catalog has been dropped. -/
def clear (c : CatalogCache) : CatalogCache := ⟨c.fields.clear, c.keys.clear⟩

/-- A catalog that does not stand in the store. -/
def unshared {α : Type} (catalog : Catalog α) : Shared α := ⟨catalog, none⟩

/-- A catalog that stands in the store. -/
def shared {α : Type} (s : Stored α) : Shared α := ⟨s.catalog, some s.serial⟩

/-- The fields that a request may filter by, from the store unless the request states them. -/
def fieldCatalog (c : CatalogCache) (r : Request) :
    Except FilterError (Shared Field) × CatalogCache :=
  match r.filterable with
  | some _ => (r.fieldCatalog.map unshared, c)
  | none =>
    let (stored, shelf) := c.fields.fetch r.output.key r.output.fieldCatalog
    (stored.map shared, { c with fields := shelf })

/-- The keys that a request may sort by, from the store unless they are stated. -/
def keyCatalog (c : CatalogCache) (r : Request) (configured : Option (List String)) :
    Except FilterError (Shared SortKey) × CatalogCache :=
  match r.statedKeys configured with
  | some _ => ((r.keyCatalog configured).map unshared, c)
  | none =>
    let (stored, shelf) := c.keys.fetch r.output.key r.output.keyCatalog
    (stored.map shared, { c with keys := shelf })

/-- The store as it is dumped for debugging. -/
def dump (c : CatalogCache) : String :=
  "CatalogCache \x7b filters: " ++ toString c.fields.size ++ ", orderings: "
    ++ toString c.keys.size ++ " \x7d"

end CatalogCache

end RowQuery
