import RowQuery.CommandLine.FileTree
import RowQuery.CommandLine.Report
import RowQuery.Params.Form
import RowQuery.Pipeline
import RowQuery.Projection
import RowQuery.Table.Dataset

/-!
Running a command on a dataset. The dataset is given as the text of its file, or as the reason why
the file cannot be read; the answer is the text to print.
-/

namespace RowQuery.CommandLine

/-- Why a command fails. -/
inductive CommandError where
  /-- The file cannot be read. -/
  | unreadable (path : String) (cause : PathFault)
  | dataset (cause : DatasetError)
  | filter (cause : FilterError)

namespace CommandError

/-- The wording of an error. -/
def message : CommandError → String
  | unreadable path cause => "cannot read " ++ path ++ ": " ++ cause.message
  | dataset cause => cause.message
  | filter cause => cause.message

/-- The exit code: 2 if the query is to blame, 1 otherwise. -/
def exitCode : CommandError → Nat
  | filter cause => if cause.isValidation then 2 else 1
  | _ => 1

end CommandError

/-- The pipeline that the arguments ask for. -/
def pipeline (args : Arguments) : Pipeline :=
  ⟨args.config, if args.orderable.isEmpty then none else some args.orderable⟩

/-- The request that a query string and the arguments make. -/
def request (args : Arguments) (output : OutputSchema) (query : String) : Request where
  params := Params.parse query
  output := output
  defaultOrdering := if args.defaultOrdering.isEmpty then none else some args.defaultOrdering

/-- How a request is understood. -/
def explain (p : Pipeline) (r : Request) (primaryKey : String) :
    Except FilterError Explanation := do
  let filter ← Filter.compile p.config r r.fieldCatalog
  let outcome ← Search.compile p.config r r.fieldCatalog
  let terms ← Sorting.effective p.config r (r.keyCatalog p.sortable) primaryKey
  let search := match outcome with
    | .everything => "TRUE"
    | .nothing => "FALSE"
    | .rows condition => condition.text
  return ⟨filter.predicate.text, search, terms.map OrderTerm.text⟩

/-- The keys of a row. -/
def rowKeys : Json → List String
  | .object members => members.map (·.1)
  | _ => []

/-- The columns of plucked rows: the paths that were asked for and found, in their order, and then
the other keys as they first appear. -/
def pluckedColumns (p : Projection) (rows : List Json) : List String :=
  let keys := rows.flatMap rowKeys
  addMissing (p.paths.filter keys.contains) keys

/-- The columns and rows that are shown of a view. -/
def shown (config : Config) (r : Request) (view : View) : List String × List Json :=
  let all := (view.table.schema.columns.map (·.name), view.toJson)
  match Projection.ofParams? r.params config with
  | some p =>
    if p.paths.isEmpty then all
    else
      let rows := view.toJson.map p.pluck
      (pluckedColumns p rows, rows)
  | none => all

/-- Runs a command on a table. -/
def runOn (args : Arguments) (output : OutputSchema) (table : Table) : Except FilterError String :=
  match args.command with
  | .query query explained => do
    let r := request args output query
    let view := View.ofTable table
    let heading ←
      if explained then do
        let e ← explain (pipeline args) r (DataSource.primaryKey view)
        pure (Report.explanation args.format e ++ "\n\n")
      else pure ""
    let found ← (pipeline args).apply r view
    let (columns, rows) := shown args.config r found
    return heading ++ Report.rows args.format columns rows
  | .describe query =>
    ((pipeline args).describe (request args output query)).map (Report.descriptions args.format)

/-- Runs a command on the content of a file. -/
def run (args : Arguments) (content : Except PathFault String) : Except CommandError String := do
  let text ← content.mapError (.unreadable args.data)
  let dataset ← (Dataset.parse text).mapError .dataset
  let table ← dataset.table.mapError .dataset
  (runOn args dataset.output table).mapError .filter

end RowQuery.CommandLine
