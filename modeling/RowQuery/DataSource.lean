import RowQuery.Error
import RowQuery.Predicate
import RowQuery.SortKey

/-!
What the filters ask of a store: views of a table that are narrowed and ordered step by step. A
condition is checked when it is applied, so that errors come up before any row is looked at.
-/

namespace RowQuery

/-- A view of a table. Every operation gives a new view. -/
class DataSource (σ : Type) where
  /-- Keeps the rows for which the condition holds. -/
  filter : σ → Predicate → Except StoreError σ
  /-- Drops the rows for which the condition holds. -/
  exclude : σ → Predicate → Except StoreError σ
  /-- Shows no row twice. -/
  distinct : σ → σ
  /-- Shows no row. -/
  nothing : σ → σ
  /-- Orders the rows, in place of any order they had. -/
  orderBy : σ → List OrderTerm → Except StoreError σ
  /-- The column whose cells tell rows apart. -/
  primaryKey : σ → String

end RowQuery
