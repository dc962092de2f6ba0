import RowQuery.Error
import RowQuery.Numeric.Integer
import RowQuery.Operand
import RowQuery.Text.Split

/-!
Filter expressions: what stands behind the name of a field in a query. Up to the first colon an
expression names its operator; without a colon the default operator is meant. Operators on lists
take their values between commas, in one pair of round or square brackets or in none.
-/

namespace RowQuery

/-- A filter expression. -/
structure Expression where
  operator : Operator
  operand : Operand
deriving DecidableEq, Repr

/-- What stands between the two given characters at the ends of a text. -/
def between? (left right : Char) : List Char → Option (List Char)
  | [] => none
  | c :: cs => if c = left && cs.getLast? = some right then some cs.dropLast else none

/-- The values of a list that is written with commas. -/
def readList (cs : List Char) : List (List Char) :=
  let cs := Text.trim cs
  let inner := ((between? '(' ')' cs) <|> (between? '[' ']' cs)).getD cs
  if inner.isEmpty then [] else (Text.splitOn ',' inner).map Text.trim

/-- The values of a list that is written with commas, as strings. -/
def listValues (s : String) : List String := (readList s.toList).map String.ofList

namespace Expression

/-- The operand of an operator, read from its text. -/
def operand? (field : String) (operator : Operator) (value : List Char) :
    Except FilterError Operand :=
  if operator.takesList then
    let values := (readList value).map String.ofList
    if values.length < operator.minValues || operator.maxValues < values.length then
      .error (.arityViolation field operator values.length)
    else .ok (.list values)
  else if operator.flag then
    match Numeric.readInt64? (Text.trim value) with
    | some n => .ok (.scalar (Numeric.intText n))
    | none => .error (.flagViolation field operator)
  else .ok (.scalar (String.ofList value))

/-- Reads the expression that is given for a field. -/
def read (field : String) (cs : List Char) : Except FilterError Expression := do
  match Text.cutAt? ':' cs with
  | none => return ⟨.default, ← operand? field .default cs⟩
  | some (name, value) =>
    match Operator.named? (String.ofList name) with
    | none => .error (.unknownOperator field (String.ofList name))
    | some operator => return ⟨operator, ← operand? field operator value⟩

/-- Reads the expression that is given for a field, from a string. -/
def parse (field expression : String) : Except FilterError Expression :=
  read field expression.toList

end Expression

end RowQuery
