import RowQuery.CommandLine.Arguments
import RowQuery.CommandLine.TextTable
import RowQuery.Description
import RowQuery.Json.Printer

/-!
What the command line prints: rows, descriptions and explanations, as tables and plain lines or as
indented JSON.
-/

namespace RowQuery.CommandLine

/-- How a query was understood: the condition of its filters, that of its free-text query, and the
sort terms. -/
structure Explanation where
  filter : String
  search : String
  ordering : List String

namespace Report

/-- Names with a comma and a space between them. -/
def named (names : List String) : String := ", ".intercalate names

/-- Names with a comma between them. -/
def joined (names : List String) : String := ",".intercalate names

/-- The text of a value in a cell. -/
def cellText : Json → String
  | .null => "NULL"
  | .string s => s
  | value => value.compact

/-- The cell of a row in the column of the given name. -/
def cell (row : Json) (column : String) : String :=
  match row with
  | .object members => cellText ((Json.get? column members).getD .null)
  | _ => cellText .null

/-- Rows as a table with the given columns. -/
def rowTable (columns : List String) (rows : List Json) : String :=
  if rows.isEmpty then "No results"
  else
    (TextTable.mk columns (rows.map fun row => columns.map (cell row))).text
      ++ "\n" ++ toString rows.length ++ " row(s)"

/-- The operators as a table. -/
def operatorTable : TextTable where
  header := ["Operator", "Meaning", "Expects"]
  rows := Operator.all.map fun op => [op.name, op.description, op.expectation]

/-- A description as tables and plain lines. -/
def descriptionText : Description → String
  | .filters fields active =>
    let fieldTable : TextTable := ⟨["Field", "Type"], fields.map fun f => [f.name, f.datatype.name]⟩
    let activeTable : TextTable :=
      ⟨["Active", "Expression"], active.map fun (field, expression) => [field, expression]⟩
    "Filters\n" ++ fieldTable.text ++ "\n" ++ operatorTable.text
      ++ (if active.isEmpty then "" else "\n" ++ activeTable.text)
  | .search param fields query =>
    "Search (" ++ param ++ "): " ++ named (fields.map (·.name)) ++ "\nterms: "
      ++ (if query.isEmpty then "-" else query)
  | .sort param stated keys requested =>
    "Ordering (" ++ param ++ "): " ++ named (keys.map (·.name))
      ++ (stated.elim "" fun names => "\ndefault: " ++ joined names)
      ++ (requested.elim "" fun names => "\ncurrent: " ++ joined names)

/-- Rows in the given format. -/
def rows (format : Format) (columns : List String) (rows : List Json) : String :=
  match format with
  | .table => rowTable columns rows
  | .json => (Json.array rows).pretty

/-- Descriptions in the given format. -/
def descriptions (format : Format) (ds : List Description) : String :=
  match format with
  | .table => "\n\n".intercalate (ds.map descriptionText)
  | .json => (Json.array (ds.map Description.toJson)).pretty

/-- An explanation in the given format. -/
def explanation (format : Format) (e : Explanation) : String :=
  match format with
  | .table =>
    "filter:   " ++ e.filter ++ "\nsearch:   " ++ e.search ++ "\nordering: " ++ named e.ordering
  | .json =>
    (Json.object
      [("filter", .string e.filter), ("search", .string e.search),
       ("ordering", .strings e.ordering)]).pretty

end Report

end RowQuery.CommandLine
