import RowQuery.Catalog.Cache
import RowQuery.Description

/-!
Requests carried out with a store of catalogs. Each part of the pipeline takes its catalog from the
store, but only if it needs one, and what it puts there is there for the next part.
-/

namespace RowQuery

namespace CatalogCache

/-- The fields of a request: from the store if they are needed. -/
def fieldsIf (needed : Bool) (c : CatalogCache) (r : Request) :
    Except FilterError (Catalog Field) × CatalogCache :=
  if needed then
    let (found, c) := c.fieldCatalog r
    (found.map Shared.catalog, c)
  else (r.fieldCatalog, c)

/-- The sort keys of a request: from the store if they are needed. -/
def keysIf (needed : Bool) (c : CatalogCache) (r : Request) (configured : Option (List String)) :
    Except FilterError (Catalog SortKey) × CatalogCache :=
  if needed then
    let (found, c) := c.keyCatalog r configured
    (found.map Shared.catalog, c)
  else (r.keyCatalog configured, c)

end CatalogCache

namespace Pipeline

/-- The view that a request asks for. -/
def applyCached {σ : Type} [DataSource σ] (p : Pipeline) (r : Request) (source : σ)
    (cache : CatalogCache) : Except FilterError σ × CatalogCache :=
  let (fields, cache) := cache.fieldsIf (Filter.needsCatalog p.config r) r
  match p.applyFilter r fields source with
  | .error e => (.error e, cache)
  | .ok source =>
    let (fields, cache) := cache.fieldsIf (Search.needsCatalog p.config r) r
    match p.applySearch r fields source with
    | .error e => (.error e, cache)
    | .ok source =>
      let (keys, cache) := cache.keysIf (Sorting.needsCatalog p.config r) r p.sortable
      (p.applySort r keys source, cache)

/-- Describes what a list offers. -/
def describeCached (p : Pipeline) (r : Request) (cache : CatalogCache) :
    Except FilterError (List Description) × CatalogCache :=
  let (fields, cache) := cache.fieldsIf true r
  match fields with
  | .error e => (.error e, cache)
  | .ok fields =>
    let (keys, cache) := cache.keysIf true r p.sortable
    (keys.map (p.descriptions r fields), cache)

end Pipeline

end RowQuery
