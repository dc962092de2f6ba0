import RowQuery.DataSource
import RowQuery.Table.Test

/-!
Tables in memory and their views. A view holds what it was asked to do, and only `View.rows` looks
at the rows of the table: it keeps those that pass every step, then the first one of each primary
key, and then orders them. Sorting inserts one row after the other behind those that are not
greater, so rows that compare equal keep their order.
-/

namespace RowQuery

/-- A table: its declaration and its rows. -/
structure Table where
  schema : Schema
  rows : List Row

namespace Table

/-- The table of the given rows. The primary key has to be a column, and every row needs one cell
for each column. -/
def ofRows (schema : Schema) (rows : List Row) : Except StoreError Table :=
  if (schema.columnIndex? schema.primaryKey).isNone then .error (.unknownColumn schema.primaryKey)
  else
    match rows.find? fun row => row.length != schema.columns.length with
    | some row =>
      .error (.invalidOperand schema.name (.cellCount row.length schema.columns.length))
    | none => .ok ⟨schema, rows⟩

/-- The place of the primary key in the rows. -/
def keyIndex (t : Table) : Nat := (t.schema.columnIndex? t.schema.primaryKey).getD 0

/-- The text of a row's primary key. -/
def keyText (t : Table) (row : Row) : String := ((row[t.keyIndex]?).getD .null).text

/-- A row as a JSON object that has one member for each column name. -/
def rowJson (t : Table) (row : Row) : Json :=
  .ofMembers (List.zipWith (fun c v => (c.name, Value.toJson v)) t.schema.columns row)

end Table

/-- A place in the rows to sort by. -/
structure SortColumn where
  index : Nat
  descending : Bool

namespace SortColumn

/-- How two rows compare at one place. -/
def compareRows (c : SortColumn) (a b : Row) : Ordering :=
  let order := Value.sortCompare (a[c.index]?.getD .null) (b[c.index]?.getD .null)
  if c.descending then order.swap else order

/-- How two rows compare: by the first place at which they differ. -/
def compareAll : List SortColumn → Row → Row → Ordering
  | [], _, _ => .eq
  | c :: cs, a, b => (c.compareRows a b).then (compareAll cs a b)

end SortColumn

/-- Puts an element into a list that is sorted in descending order, before the elements that are not
greater than it. -/
def insertDescending {α : Type} (less : α → α → Bool) (x : α) : List α → List α
  | [] => [x]
  | y :: ys => if less x y then y :: insertDescending less x ys else x :: y :: ys

/-- The list in ascending order; elements of which neither is less keep their order. -/
def stableSort {α : Type} (less : α → α → Bool) (xs : List α) : List α :=
  (xs.foldl (fun sorted x => insertDescending less x sorted) []).reverse

/-- The elements of which no earlier one has the same key, none of the `seen` keys being among
them. -/
def firstOfEach {α : Type} (key : α → String) (seen : List String) : List α → List α
  | [] => []
  | x :: xs =>
    if key x ∈ seen then firstOfEach key seen xs else x :: firstOfEach key (key x :: seen) xs

/-- What a view asks of its rows. -/
inductive Step where
  /-- The row passes the test. -/
  | keep (test : RowTest)
  /-- The row does not pass the test. -/
  | drop (test : RowTest)

/-- Whether a row meets a step. -/
def Step.admits (row : Row) : Step → Bool
  | keep test => test.holds row
  | drop test => !test.holds row

/-- A view of a table. -/
structure View where
  table : Table
  steps : List Step
  /-- Whether of rows with one primary key only the first is shown. -/
  distinct : Bool
  /-- Whether no row is shown. -/
  empty : Bool
  ordering : List SortColumn

namespace View

/-- The view that shows the whole table. -/
def ofTable (table : Table) : View := ⟨table, [], false, false, []⟩

/-- The rows that meet every step of a view. -/
def admitted (v : View) : List Row := v.table.rows.filter fun row => v.steps.all (Step.admits row)

/-- The rows of a view before they are ordered. -/
def selected (v : View) : List Row :=
  if v.empty then []
  else if v.distinct then firstOfEach v.table.keyText [] v.admitted
  else v.admitted

/-- The rows of a view. -/
def rows (v : View) : List Row :=
  stableSort (fun a b => SortColumn.compareAll v.ordering a b == .lt) v.selected

/-- The rows of a view as JSON objects. -/
def toJson (v : View) : List Json := v.rows.map v.table.rowJson

/-- The texts of the primary keys of a view's rows. -/
def keys (v : View) : List String := v.rows.map v.table.keyText

/-- The place that a sort term names. -/
def sortColumn (s : Schema) (t : OrderTerm) : Except StoreError SortColumn :=
  match s.columnIndex? (if t.source = "pk" then s.primaryKey else t.source) with
  | some index => .ok ⟨index, t.descending⟩
  | none => .error (.unknownColumn t.source)

/-- The view with one more step, which is made of the test that a condition means. -/
def step (v : View) (make : RowTest → Step) (p : Predicate) : Except StoreError View :=
  (RowTest.ofPredicate v.table.schema p).map fun test => { v with steps := v.steps ++ [make test] }

instance : DataSource View where
  filter v p := v.step .keep p
  exclude v p := v.step .drop p
  distinct v := { v with distinct := true }
  nothing v := { v with empty := true }
  orderBy v ts := (ts.mapM (sortColumn v.table.schema)).map fun ordering => { v with ordering }
  primaryKey v := v.table.schema.primaryKey

end View

end RowQuery
