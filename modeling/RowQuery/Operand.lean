import RowQuery.Json.Basic
import RowQuery.Text.Quoted

/-!
What a comparison compares with: one value or a list of values, all of them still text.
-/

namespace RowQuery

/-- The operand of a comparison. -/
inductive Operand where
  | scalar (value : String)
  | list (values : List String)
deriving DecidableEq, Repr

namespace Operand

/-- The number of values. -/
def size : Operand → Nat
  | scalar _ => 1
  | list values => values.length

/-- The value of a scalar. -/
def scalar? : Operand → Option String
  | scalar value => some value
  | list _ => none

/-- The values of a list. -/
def list? : Operand → Option (List String)
  | scalar _ => none
  | list values => some values

/-- The operand with every value changed by `f`. -/
def map (f : String → String) : Operand → Operand
  | scalar value => scalar (f value)
  | list values => list (values.map f)

/-- Quoted values with commas between them. -/
def writeValues : List String → List Char
  | [] => []
  | [value] => Text.quote value.toList
  | value :: rest => Text.quote value.toList ++ ',' :: ' ' :: writeValues rest

/-- The operand in text: a quoted value, or a list of them in brackets. -/
def write : Operand → List Char
  | scalar value => Text.quote value.toList
  | list values => '[' :: (writeValues values ++ [']'])

/-- The operand in text, as a string. -/
def text (operand : Operand) : String := String.ofList operand.write

/-- The operand as JSON: a string or an array of strings. -/
def toJson : Operand → Json
  | scalar value => .string value
  | list values => .strings values

end Operand

end RowQuery
