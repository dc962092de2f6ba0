import RowQuery.Operator

/-!
What can go wrong: in the store, where a condition is checked against the columns, and in a request,
where a parameter is turned into a condition. Each error holds its cause; `message` words it.
-/

namespace RowQuery

/-- What a value was expected to be. -/
inductive Expected where
  | string
  | integer
  | number
  | boolean
  | date
  | datetime
  | integerFlag
deriving DecidableEq, Repr

/-- The wording of what was expected. -/
def Expected.name : Expected → String
  | string => "string"
  | integer => "integer"
  | number => "number"
  | boolean => "boolean"
  | date => "date"
  | datetime => "datetime"
  | integerFlag => "integer flag"

/-- What is wrong with the shape of an operand or a row. -/
inductive ShapeFault where
  /-- A list where the comparison takes one value. -/
  | notScalar (comparison : Comparison)
  /-- One value where the comparison takes a list. -/
  | notList (comparison : Comparison)
  /-- A list for a range that has not two values. -/
  | notPair (count : Nat)
  /-- A row that has not one cell for each column. -/
  | cellCount (cells columns : Nat)
  /-- A reason of the store's own. -/
  | other (reason : String)
deriving DecidableEq, Repr

/-- The wording of a shape fault. -/
def ShapeFault.reason : ShapeFault → String
  | notScalar c => "'" ++ c.name ++ "' expects a single value"
  | notList c => "'" ++ c.name ++ "' expects a list of values"
  | notPair count => "'range' expects 2 values, got " ++ toString count
  | cellCount cells columns =>
    "row has " ++ toString cells ++ " cells, table has " ++ toString columns ++ " columns"
  | other reason => reason

/-- What a store reports. -/
inductive StoreError where
  /-- A value that is not of the column's type. -/
  | typeMismatch (path value : String) (expected : Expected)
  /-- A path or sort term that names no column. -/
  | unknownColumn (path : String)
  /-- An operand of the wrong shape. -/
  | invalidOperand (path : String) (fault : ShapeFault)
deriving DecidableEq, Repr

namespace StoreError

/-- The wording of a store error. -/
def message : StoreError → String
  | typeMismatch path value expected =>
    "value '" ++ value ++ "' is not a valid " ++ expected.name ++ " for '" ++ path ++ "'"
  | unknownColumn path => "unknown column '" ++ path ++ "'"
  | invalidOperand path fault => "invalid operand for '" ++ path ++ "': " ++ fault.reason

/-- Whether the operand that a client gave is to blame. -/
def blamesOperand : StoreError → Bool
  | unknownColumn _ => false
  | _ => true

end StoreError

/-- Why a request is refused. -/
inductive FilterError where
  /-- A parameter that names no field; the names that do exist come with it. -/
  | unknownField (field : String) (choices : List String)
  | unknownOperator (field operator : String)
  /-- A list of so many values that the operator does not take. -/
  | arityViolation (field : String) (operator : Operator) (got : Nat)
  /-- A flag that is not an integer. -/
  | flagViolation (field : String) (operator : Operator)
  /-- An operand that the store cannot use for the field. -/
  | typeMismatch (field : String)
  /-- A sort key that does not exist; the keys that do come with it. -/
  | unknownSortKey (key : String) (choices : List String)
  /-- Two entries of one name in a catalog. -/
  | duplicateField (name : String)
  /-- A failure of the store that the client is not to blame for. -/
  | store (cause : StoreError)
deriving DecidableEq, Repr

namespace FilterError

/-- The names with a comma between neighbours. -/
def listed (names : List String) : String := ", ".intercalate names

/-- The wording of an error. -/
def message : FilterError → String
  | unknownField field choices =>
    "Unknown filter field: '" ++ field ++ "' (choices are " ++ listed choices ++ ")"
  | unknownOperator field operator => field ++ ": unknown operator \"" ++ operator ++ "\""
  | arityViolation field operator _ =>
    field ++ ": \"" ++ operator.name ++ "\" operator expects " ++ operator.expectation
  | flagViolation field operator =>
    field ++ ": \"" ++ operator.name ++ "\" operator expects " ++ operator.expectation
  | typeMismatch field =>
    field ++ ": the given operator or value are inappropriate for this field"
  | unknownSortKey key choices =>
    "Unknown ordering field: '" ++ key ++ "' (choices are " ++ listed choices ++ ")"
  | duplicateField name => "duplicate field name in catalog: '" ++ name ++ "'"
  | store cause => "store error: " ++ cause.message

/-- Whether the client's request is to blame. -/
def isValidation : FilterError → Bool
  | duplicateField _ => false
  | store _ => false
  | _ => true

/-- The field or key that the error is about. -/
def field? : FilterError → Option String
  | unknownField field _ => some field
  | unknownOperator field _ => some field
  | arityViolation field _ _ => some field
  | flagViolation field _ => some field
  | typeMismatch field => some field
  | unknownSortKey key _ => some key
  | duplicateField name => some name
  | store _ => none

/-- How a store error is reported against a field: the operand is blamed on the client. -/
def ofStore (field : String) (e : StoreError) : FilterError :=
  if e.blamesOperand then typeMismatch field else store e

end FilterError

end RowQuery
