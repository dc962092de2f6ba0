import RowQuery.Catalog
import RowQuery.Config
import RowQuery.DataSource
import RowQuery.Numeric.Integer
import RowQuery.SearchTerms

/-!
Free-text search. A row is shown if every term of the query is found in some field that is not
advanced: in a string field as a part of its text, in an integer field as its number.
-/

namespace RowQuery

/-- What the free-text query of a request asks for. -/
inductive SearchOutcome where
  /-- There is no term, and every row is shown. -/
  | everything
  /-- Some term can be found in no field, and no row is shown. -/
  | nothing
  | rows (p : Predicate)

namespace Search

/-- The free-text query of a request. -/
def query (config : Config) (r : Request) : String := (r.params.get? config.searchParam).getD ""

/-- The terms of a request's query. -/
def terms (config : Config) (r : Request) : List String := SearchTerms.parse (query config r)

/-- Whether the term is a number that an integer field can hold. -/
def isNumber (term : String) : Bool :=
  !term.toList.isEmpty && term.toList.all Numeric.isDigit && (Numeric.parseInt64? term).isSome

/-- The comparison that looks for a term in fields of a datatype. -/
def comparison? (datatype : Datatype) (term : String) : Option Comparison :=
  match datatype with
  | .string => some .contains
  | .integer => if isNumber term then some .exact else none
  | _ => none

/-- The condition that a field holds a term; a field that refuses the term is passed over. -/
def condition? (term : String) (f : Field) : Option Predicate :=
  (comparison? f.datatype term).bind fun c => (f.predicate c (.scalar term)).toOption

/-- The fields that are searched. -/
def searched (catalog : Catalog Field) : List Field := catalog.entries.filter fun f => !f.advanced

/-- The conditions that one of the fields holds a term. -/
def group (catalog : Catalog Field) (term : String) : List Predicate :=
  (searched catalog).filterMap (condition? term)

/-- Whether the catalog of fields is needed to compile the query. -/
def needsCatalog (config : Config) (r : Request) : Bool := !(terms config r).isEmpty

/-- Compiles the free-text query of a request. -/
def compile (config : Config) (r : Request) (catalog : Except FilterError (Catalog Field)) :
    Except FilterError SearchOutcome :=
  if needsCatalog config r then do
    let groups := (terms config r).map (group (← catalog))
    if groups.any List.isEmpty then return .nothing
    else return .rows (.all (groups.map Predicate.any))
  else .ok .everything

/-- Narrows a view to what a query asks for. -/
def apply {σ : Type} [DataSource σ] (config : Config) (outcome : SearchOutcome) (source : σ) :
    Except FilterError σ :=
  match outcome with
  | .everything => .ok source
  | .nothing => .ok (DataSource.nothing source)
  | .rows p => (DataSource.filter source p).mapError (FilterError.ofStore config.searchParam)

end Search

end RowQuery
