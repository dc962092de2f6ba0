import RowQuery.Json.Document

/-!
The names of the parameters that have a meaning of their own, and of those that are never taken for
filters.
-/

namespace RowQuery

open Json (Document)

/-- The names of special parameters. -/
structure Config where
  orderingParam : String
  searchParam : String
  fieldsParam : String
  /-- The names that are never taken for filters. -/
  ignoredParams : List String
deriving DecidableEq, Repr

namespace Config

/-- The usual name of the ordering parameter. -/
def usualOrderingParam : String := "ordering"

/-- The usual name of the search parameter. -/
def usualSearchParam : String := "q"

/-- The usual name of the parameter that chooses fields. -/
def usualFieldsParam : String := "fields"

/-- The configuration of the given names. They are ignored as filters, and so are four names that
lists usually have a meaning for. -/
def ofParams (orderingParam searchParam fieldsParam : String) : Config where
  orderingParam := orderingParam
  searchParam := searchParam
  fieldsParam := fieldsParam
  ignoredParams :=
    [orderingParam, fieldsParam, "page", "page_size", "format", searchParam, "stream"]

/-- The configuration of the usual names. -/
def usual : Config := ofParams usualOrderingParam usualSearchParam usualFieldsParam

/-- The configuration with one more ignored name. -/
def ignoring (c : Config) (name : String) : Config :=
  if c.ignoredParams.contains name then c
  else { c with ignoredParams := c.ignoredParams ++ [name] }

/-- Whether the name is never taken for a filter. -/
def isIgnored (c : Config) (name : String) : Bool := c.ignoredParams.contains name

/-- The configuration that a document describes. What is absent has its usual value, and the
ignored names follow from the other ones unless they are stated. -/
def ofDocument? (d : Document) : Option Config := do
  match ← d.fields? ["ordering_param", "search_param", "fields_param", "ignored_params"] with
  | [ordering, search, fields, ignored] =>
    let config := ofParams
      (← Document.orElse? usualOrderingParam Document.string? ordering)
      (← Document.orElse? usualSearchParam Document.string? search)
      (← Document.orElse? usualFieldsParam Document.string? fields)
    match ← Document.optional? Document.strings? ignored with
    | some names => return { config with ignoredParams := names }
    | none => return config
  | _ => none

/-- The configuration as JSON. -/
def toJson (c : Config) : Json :=
  .object
    [("ordering_param", .string c.orderingParam), ("search_param", .string c.searchParam),
     ("fields_param", .string c.fieldsParam), ("ignored_params", .strings c.ignoredParams)]

end Config

end RowQuery
