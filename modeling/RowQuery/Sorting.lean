import RowQuery.Catalog
import RowQuery.Config
import RowQuery.DataSource

/-!
The order of a request. The ordering parameter names sort keys, with a hyphen for descending order;
without it the order that the request states counts. The primary key is the last term, so that no
two rows are equal, unless it is a term already.
-/

namespace RowQuery.Sorting

/-- A second name for the primary key, whatever column that is. -/
def keyAlias : String := "pk"

/-- The sort keys that a request asks for. -/
def requested (config : Config) (r : Request) : List String :=
  ((r.params.get? config.orderingParam).map Text.itemStrings).getD []

/-- The sort terms of a key that may have a hyphen before it. -/
def keyTerms (catalog : Catalog SortKey) (key : String) : Except FilterError (List OrderTerm) := do
  let asked := OrderTerm.parse key
  let found ← catalog.requireKey asked.source
  return found.terms asked.descending

/-- Whether the catalog of keys is needed to find the order. -/
def needsCatalog (config : Config) (r : Request) : Bool := !(requested config r).isEmpty

/-- The sort terms that a request asks for, or else those that it states. -/
def terms (config : Config) (r : Request) (catalog : Except FilterError (Catalog SortKey)) :
    Except FilterError (List OrderTerm) :=
  if needsCatalog config r then do
    let keys ← catalog
    return (← (requested config r).mapM (keyTerms keys)).flatten
  else .ok ((r.defaultOrdering.getD []).map OrderTerm.parse)

/-- Whether the term sorts by the primary key. -/
def sortsByKey (primaryKey : String) (t : OrderTerm) : Bool :=
  t.source == primaryKey || t.source == keyAlias

/-- The terms with the primary key behind them, unless it is among them. -/
def withKey (primaryKey : String) (ts : List OrderTerm) : List OrderTerm :=
  if ts.any (sortsByKey primaryKey) then ts else ts ++ [⟨primaryKey, false⟩]

/-- The terms that a request is sorted by. -/
def effective (config : Config) (r : Request) (catalog : Except FilterError (Catalog SortKey))
    (primaryKey : String) : Except FilterError (List OrderTerm) :=
  (terms config r catalog).map (withKey primaryKey)

/-- The term with the second name of the primary key resolved. -/
def resolve (primaryKey : String) (t : OrderTerm) : OrderTerm :=
  if t.source = keyAlias then { t with source := primaryKey } else t

/-- Orders a view. -/
def apply {σ : Type} [DataSource σ] (ts : List OrderTerm) (source : σ) : Except FilterError σ :=
  (DataSource.orderBy source (ts.map (resolve (DataSource.primaryKey source)))).mapError .store

end RowQuery.Sorting
