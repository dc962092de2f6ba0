import RowQuery.CallLog
import RowQuery.Main
import RowQuery.Pipeline.Cached
import RowQuery.Proofs.Outcome
import RowQuery.Proofs.Predicate.Truth
import RowQuery.Proofs.Predicate.Combinations
import RowQuery.Proofs.Predicate.Normal
import RowQuery.Proofs.Filter.Reported
import RowQuery.Proofs.Catalog.OwnFields
import RowQuery.Proofs.Pipeline.Twins
import RowQuery.Proofs.Numeric.Magnitude
import RowQuery.Proofs.Value.Order
import RowQuery.Proofs.Numeric.Rounding
import RowQuery.Proofs.Value.Typed
import RowQuery.Proofs.Table.Loading
import RowQuery.Proofs.Table.Comparisons
import RowQuery.Proofs.Table.Sorted
import RowQuery.Proofs.Query.Meaning
import RowQuery.Proofs.Predicate.Lookups
import RowQuery.Proofs.Numeric.Digits
import RowQuery.Proofs.Search.OwnFields
import RowQuery.Proofs.Filter.OwnFields
import RowQuery.Proofs.Table.RowOrder
import RowQuery.Proofs.Params
import RowQuery.Proofs.Sorting.OwnKeys
import RowQuery.Proofs.Pipeline.ClientErrors
import RowQuery.Proofs.Pipeline.Answer
import RowQuery.Proofs.Calendar.Written
import RowQuery.Proofs.Numeric.Plain
import RowQuery.Proofs.Table.UniqueKeys
import RowQuery.Proofs.Pipeline.Pagination
import RowQuery.Proofs.Expression.Written
import RowQuery.Proofs.Pipeline.Sieves
import RowQuery.Proofs.Pipeline.Repetition
import RowQuery.Proofs.Pipeline.Complement
import RowQuery.Proofs.Predicate.Lists
import RowQuery.Proofs.Filter.Lists
import RowQuery.Proofs.Catalog.Stored
import RowQuery.Proofs.Pipeline.Uses
import RowQuery.Proofs.Table.Narrowing
import RowQuery.Proofs.Pipeline.Duplicates
import RowQuery.Proofs.Pipeline.RequestedOrder
import RowQuery.Proofs.Search.Clauses
import RowQuery.Proofs.Calendar.ReadBack
import RowQuery.Proofs.Json.Members
import RowQuery.Proofs.Table.Members
import RowQuery.Proofs.Table.Reloading
import RowQuery.Proofs.Projection
import RowQuery.Proofs.Filter.Described
import RowQuery.Proofs.Search.Parts
import RowQuery.Proofs.Filter.OwnValues
import RowQuery.Proofs.Expression.Complete
import RowQuery.Proofs.CommandLine.Explained
import RowQuery.Proofs.Pipeline.Presentation
import RowQuery.Proofs.Expression.Shapes
import RowQuery.Proofs.Filter.Compiled
import RowQuery.Proofs.Predicate.Rendered
import RowQuery.Proofs.Table.Regions
import RowQuery.Proofs.Sorting.Effective
import RowQuery.Proofs.Search.Terms
import RowQuery.Proofs.Search.Letters
import RowQuery.Proofs.Search.Written
import RowQuery.Proofs.Expression.Padded
import RowQuery.Proofs.Text.Bytes
import RowQuery.Proofs.Table.Faults
import RowQuery.Proofs.Params.Multimap
import RowQuery.Proofs.Projection.Items
import RowQuery.Proofs.Projection.Paths
import RowQuery.Proofs.Table.Places
import RowQuery.Proofs.CommandLine.Header
