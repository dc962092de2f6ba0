import RowQuery.Json.Basic

/-!
The operators that a filter expression may name. Each one asks the store for a comparison, with so
many values, and either keeps or drops the rows that pass. `Operator.all` lists the twelve
operators; the first of them stands for an expression that names none.
-/

namespace RowQuery

/-- A comparison that the store performs. -/
inductive Comparison where
  /-- Equal to the value. -/
  | exact
  | less
  | atMost
  | greater
  | atLeast
  /-- The text of the cell holds the value, whatever the case of letters. -/
  | contains
  /-- Equal to one of the values. -/
  | oneOf
  /-- Between two values, both included. -/
  | range
  /-- Null or not, as a flag says. -/
  | isNull
deriving DecidableEq, Repr

namespace Comparison

/-- The name of the comparison. -/
def name : Comparison → String
  | exact => "exact"
  | less => "lt"
  | atMost => "lte"
  | greater => "gt"
  | atLeast => "gte"
  | contains => "icontains"
  | oneOf => "in"
  | range => "range"
  | isNull => "isnull"

/-- Every comparison. -/
def all : List Comparison :=
  [exact, less, atMost, greater, atLeast, contains, oneOf, range, isNull]

/-- The comparison of the given name. -/
def named? (name : String) : Option Comparison := all.find? fun c => c.name == name

end Comparison

/-- An operator of filter expressions. -/
structure Operator where
  /-- The word that names it in an expression. -/
  name : String
  comparison : Comparison
  description : String
  /-- Whether the rows that pass the comparison are dropped. -/
  negated : Bool
  minValues : Nat
  maxValues : Nat
  /-- Whether the value is an integer that means no or yes. -/
  flag : Bool
deriving DecidableEq, Repr

namespace Operator

/-- The operator that stands for an expression without one. -/
def default : Operator := ⟨"eq", .exact, "field = value", false, 1, 1, false⟩

/-- The operators, the default one first. -/
def all : List Operator :=
  [default,
   ⟨"ne", .exact, "field <> value", true, 1, 1, false⟩,
   ⟨"lt", .less, "field < value", false, 1, 1, false⟩,
   ⟨"le", .atMost, "field <= value", false, 1, 1, false⟩,
   ⟨"gt", .greater, "field > value", false, 1, 1, false⟩,
   ⟨"ge", .atLeast, "field >= value", false, 1, 1, false⟩,
   ⟨"like", .contains, "field contains a string (case insensitive)", false, 1, 1, false⟩,
   ⟨"unlike", .contains, "field does not contain a string (case insensitive)", true, 1, 1, false⟩,
   ⟨"in", .oneOf, "field is equal to one of the given values", false, 1, 1000, false⟩,
   ⟨"out", .oneOf, "field is not equal to any of the given values", true, 1, 1000, false⟩,
   ⟨"between", .range, "field is in a range of two values (inclusive)", false, 2, 2, false⟩,
   ⟨"isnull", .isNull, "field is null", false, 1, 1, true⟩]

/-- The operator of the given name. -/
def named? (name : String) : Option Operator := all.find? fun op => op.name == name

/-- Whether the operator takes a list of values. -/
def takesList (op : Operator) : Bool := 1 < op.maxValues

/-- What the operator expects to be given. -/
def expectation (op : Operator) : String :=
  if op.flag then "a single boolean value: 0 or 1"
  else if op.maxValues = 1 then "a single value"
  else if op.maxValues = op.minValues then
    "a list of exactly " ++ toString op.maxValues ++ " values"
  else "a list of " ++ toString op.minValues ++ "-" ++ toString op.maxValues ++ " values"

/-- The operator as JSON. -/
def toJson (op : Operator) : Json :=
  .object
    [("name", .string op.name), ("target", .string op.comparison.name),
     ("description", .string op.description), ("negate", .bool op.negated),
     ("min_vals", .integer op.minValues), ("max_vals", .integer op.maxValues),
     ("boolean", .bool op.flag)]

end Operator

end RowQuery
