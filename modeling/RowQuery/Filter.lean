import RowQuery.Catalog
import RowQuery.Config
import RowQuery.DataSource
import RowQuery.Expression

/-!
The filters of a request. Every parameter that is not ignored names a field, and each of its values
is an expression that becomes one clause. The rows that are shown satisfy all clauses; the clauses
of negated operators are satisfied by the rows that the condition does not hold for.
-/

namespace RowQuery

namespace Request

/-- Whether the parameter is never taken for a filter. -/
def isIgnored (r : Request) (config : Config) (name : String) : Bool :=
  match r.nonFiltering with
  | some names => names.contains name
  | none => config.isIgnored name

/-- The parameters that are filters, each with one of its values. -/
def filters (r : Request) (config : Config) : List (String × String) :=
  r.params.occurrences.filter fun (name, _) => !r.isIgnored config name

end Request

/-- One filter of a request. -/
structure Clause where
  field : String
  operator : Operator
  /-- The condition that the operator asks for, whether it is negated or not. -/
  predicate : Predicate

namespace Clause

/-- Compiles an expression that is given for a field. -/
def compile (catalog : Catalog Field) (name expression : String) : Except FilterError Clause := do
  let field ← catalog.require name
  let e ← Expression.parse field.name expression
  let predicate ← field.predicate e.operator.comparison e.operand
  return ⟨field.name, e.operator, predicate⟩

/-- The condition for the rows that are shown. -/
def effective (c : Clause) : Predicate :=
  if c.operator.negated then c.predicate.negate else c.predicate

/-- Narrows a view. What the store refuses is reported against the field. -/
def apply {σ : Type} [DataSource σ] (c : Clause) (source : σ) : Except FilterError σ :=
  (if c.operator.negated then DataSource.exclude source c.predicate
    else DataSource.filter source c.predicate).mapError (FilterError.ofStore c.field)

end Clause

/-- The filters of a request. -/
structure Filter where
  clauses : List Clause

namespace Filter

/-- Whether the catalog of fields is needed to compile the filters. -/
def needsCatalog (config : Config) (r : Request) : Bool := !(r.filters config).isEmpty

/-- Compiles the filters of a request; the first one that is wrong refuses the request. -/
def compile (config : Config) (r : Request) (catalog : Except FilterError (Catalog Field)) :
    Except FilterError Filter :=
  if needsCatalog config r then do
    let fields ← catalog
    return ⟨← (r.filters config).mapM fun (name, e) => Clause.compile fields name e⟩
  else .ok ⟨[]⟩

/-- The condition for the rows that are shown. -/
def predicate (f : Filter) : Predicate := .all (f.clauses.map Clause.effective)

/-- Narrows a view by all clauses and lets it show no row twice; without clauses the view stays. -/
def apply {σ : Type} [DataSource σ] (f : Filter) (source : σ) : Except FilterError σ :=
  if f.clauses.isEmpty then .ok source
  else (f.clauses.foldlM (fun view (c : Clause) => c.apply view) source).map DataSource.distinct

end Filter

end RowQuery
