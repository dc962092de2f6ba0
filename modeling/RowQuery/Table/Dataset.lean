import RowQuery.Json.Reader
import RowQuery.Output.Schema
import RowQuery.Table.Basic

/-!
Datasets: the declaration of a table with rows of JSON, as they are kept in a file. The cells of a
row stand under the names of their columns, and a cell that is missing is null.
-/

namespace RowQuery

open Json (Document)

/-- A table as it is kept in a file. -/
structure Dataset where
  schema : Schema
  /-- The members of each row, in ascending order of their names. -/
  rows : List (List (String × Json))

/-- What is wrong with a dataset. -/
inductive DatasetError where
  /-- The text is no JSON, or not that of a dataset. -/
  | malformed
  /-- A cell that its column cannot hold. -/
  | cell (row : Nat) (cause : StoreError)
  /-- A row with a member that no column is named for. -/
  | unknownColumn (row : Nat) (column : String)
  /-- A declaration that contradicts itself. -/
  | schema (cause : StoreError)
deriving DecidableEq

/-- The wording of a dataset error. -/
def DatasetError.message : DatasetError → String
  | malformed => "invalid dataset"
  | cell row cause => "row " ++ toString row ++ ": " ++ cause.message
  | unknownColumn row column => "row " ++ toString row ++ ": unknown column '" ++ column ++ "'"
  | schema cause => "invalid schema: " ++ cause.message

namespace Dataset

/-- The members of a row that stands two levels deep in a document. -/
def rowOfDocument? (d : Document) : Option (List (String × Json)) :=
  match d.value? (Document.maxDepth - 2) with
  | some (.object members) => some members
  | _ => none

/-- The dataset that a document holds. -/
def ofDocument? (d : Document) : Option Dataset := do
  match ← d.fields? ["schema", "rows"] with
  | [some schema, rows] =>
    return ⟨← Schema.ofDocument? schema,
      ← Document.orElse? [] (fun d => do (← d.items?).mapM rowOfDocument?) rows⟩
  | _ => none

/-- The dataset that a text holds. -/
def parse (text : String) : Except DatasetError Dataset :=
  match (Json.readDocument? text).bind ofDocument? with
  | some dataset => .ok dataset
  | none => .error .malformed

/-- The output schema that shows every column of the dataset. -/
def output (d : Dataset) : OutputSchema := .ofSchema d.schema

/-- The cell that a row's members give for a column. -/
def cell (members : List (String × Json)) (c : Column) : Except StoreError Value :=
  match Json.get? c.name members with
  | some json => Value.ofJson json c
  | none => .ok .null

/-- The cells of the row at a place, read from its members. -/
def row (s : Schema) (place : Nat) (members : List (String × Json)) : Except DatasetError Row :=
  match members.find? fun (name, _) => (s.column? name).isNone with
  | some (name, _) => .error (.unknownColumn place name)
  | none => (s.columns.mapM (cell members)).mapError (.cell place)

/-- The table that a dataset holds. -/
def table (d : Dataset) : Except DatasetError Table := do
  let rows ← d.rows.zipIdx.mapM fun (members, place) => row d.schema place members
  (Table.ofRows d.schema rows).mapError .schema

end Dataset

end RowQuery
