import RowQuery.Proofs.Expression.Written
import RowQuery.Proofs.Numeric.Digits

/-!
The expression syntax can write every expression that the operators allow (`parse_complete`). An operand of
a single value is any text, since the name of the operator ends at the first colon. A flag may be written
with a sign, leading zeros and blanks around it (`Numeric.Spells`), and these are all the texts that are read
as a number at all (`Numeric.readInt64?_trim_iff`).
-/

namespace RowQuery

namespace Operator

variable {op : Operator}

/-- An operator is found by its name, in which no colon stands. -/
lemma named?_of_mem (h : op ∈ all) : named? op.name = some op ∧ ':' ∉ op.name.toList := by
  revert op
  decide

/-- A flag is one value. -/
lemma takesList_of_flag (h : op ∈ all) (hf : op.flag = true) : op.takesList = false := by
  revert op
  decide

lemma named?_eq_none {name : String} (h : ∀ op ∈ all, op.name ≠ name) : named? name = none := by
  refine List.find?_eq_none.mpr fun op hop => ?_
  simpa using h op hop

end Operator

namespace Expression

variable {op : Operator} {field name : String} {values : List String}

/-- Values with commas between them, in square brackets. -/
def inSquareBrackets (values : List String) : String := "[" ++ ",".intercalate values ++ "]"

/-- The values of a list in either kind of brackets are read back, and so is the empty list. -/
lemma readList_written (hv : ∀ v ∈ values, IsItem v) (hs : values ≠ [""]) {text : String}
    (htext : text ∈ [inBrackets values, inSquareBrackets values]) :
    (readList text.toList).map String.ofList = values := by
  obtain ⟨left, right, htext, hends⟩ : ∃ left right,
      text.toList = left :: ([','].intercalate (values.map String.toList) ++ [right]) ∧
        (left, right) ∈ [('(', ')'), ('[', ']')] := by
    rcases List.mem_pair.mp htext with rfl | rfl
    · exact ⟨'(', ')', toList_bracketed "(" ")" values, by decide⟩
    · exact ⟨'[', ']', toList_bracketed "[" "]" values, by decide⟩
  by_cases hne : values = []
  · rw [readList_brackets htext hends, hne]
    rfl
  · exact readList_of_brackets htext hends hv hne hs

/-- A flag is kept as the decimal text of the integer that it is read as. -/
lemma operand?_flag (hl : op.takesList = false) (hf : op.flag = true) {cs : List Char} {n : Int}
    (h : Numeric.readInt64? (Text.trim cs) = some n) :
    operand? field op cs = .ok (.scalar (Numeric.intText n)) := by
  rw [operand?, hl, if_neg Bool.false_ne_true, hf, if_pos rfl, h]

lemma operand?_no_flag (hl : op.takesList = false) (hf : op.flag = true) {cs : List Char}
    (h : Numeric.readInt64? (Text.trim cs) = none) :
    operand? field op cs = .error (.flagViolation field op) := by
  rw [operand?, hl, if_neg Bool.false_ne_true, hf, if_pos rfl, h]

/-- An expression without a colon is an operand of the default operator. -/
lemma parse_of_not_mem {expression : String} (h : ':' ∉ expression.toList) :
    parse field expression = parse field (written Operator.default.name expression) := by
  have hdefault : Operator.named? Operator.default.name = some .default := rfl
  rw [parse_written hdefault (by decide), parse, read,
    Text.cutAt?_of_not_mem h]
  cases operand? field .default expression.toList <;> rfl

/-- What stands before the first colon must name an operator. -/
lemma parse_unknown (hn : ':' ∉ name.toList) (h : Operator.named? name = none) (rest : String) :
    parse field (written name rest) = .error (.unknownOperator field name) := by
  rw [parse, read, cutAt?_written hn]
  dsimp only
  rw [String.ofList_toList, h]

end Expression

end RowQuery
