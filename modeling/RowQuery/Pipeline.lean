import RowQuery.Filter
import RowQuery.Search
import RowQuery.Sorting

/-!
What a request does to a view: its filters narrow it, then its free-text query, and then it is
ordered. The first part that fails refuses the whole request.
-/

namespace RowQuery

/-- How requests are carried out. -/
structure Pipeline where
  config : Config
  /-- The names to sort by, for requests that state none. -/
  sortable : Option (List String) := none

namespace Pipeline

variable {σ : Type} [DataSource σ]

/-- Narrows a view by the filters of a request. -/
def applyFilter (p : Pipeline) (r : Request) (catalog : Except FilterError (Catalog Field))
    (source : σ) : Except FilterError σ := do
  (← Filter.compile p.config r catalog).apply source

/-- Narrows a view by the free-text query of a request. -/
def applySearch (p : Pipeline) (r : Request) (catalog : Except FilterError (Catalog Field))
    (source : σ) : Except FilterError σ := do
  Search.apply p.config (← Search.compile p.config r catalog) source

/-- Orders a view as a request asks. -/
def applySort (p : Pipeline) (r : Request) (catalog : Except FilterError (Catalog SortKey))
    (source : σ) : Except FilterError σ := do
  Sorting.apply (← Sorting.effective p.config r catalog (DataSource.primaryKey source)) source

/-- The view that a request asks for. -/
def apply (p : Pipeline) (r : Request) (source : σ) : Except FilterError σ := do
  let source ← p.applyFilter r r.fieldCatalog source
  let source ← p.applySearch r r.fieldCatalog source
  p.applySort r (r.keyCatalog p.sortable) source

end Pipeline

end RowQuery
