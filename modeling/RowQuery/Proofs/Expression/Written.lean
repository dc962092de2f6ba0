import RowQuery.Expression
import RowQuery.Proofs.Text.Trim

/-!
Expressions as a client writes them: the name of an operator, a colon and the operand. The name ends at
the first colon, whatever the operand holds (`parse_written`), and a list is written with commas in one
pair of brackets (`inBrackets`), from which its values are read back if each of them could stand in a
list at all (`IsItem`).
-/

namespace RowQuery

namespace Text

variable {sep : Char}

/-- A text is cut at the separator behind a part that has none. -/
lemma cutAt?_append {before : List Char} (h : sep ∉ before) (after : List Char) :
    cutAt? sep (before ++ sep :: after) = some (before, after) := by
  induction before with
  | nil => exact if_pos rfl
  | cons c cs ih =>
    have hc : c ≠ sep := fun hc => h (hc ▸ List.mem_cons_self)
    have hcs : sep ∉ cs := fun hmem => h (List.mem_cons_of_mem c hmem)
    rw [List.cons_append, cutAt?, if_neg hc, ih hcs]
    rfl

lemma cutAt?_of_not_mem {cs : List Char} (h : sep ∉ cs) : cutAt? sep cs = none := by
  induction cs with
  | nil => rfl
  | cons c cs ih =>
    have hc : c ≠ sep := fun hc => h (hc ▸ List.mem_cons_self)
    rw [cutAt?, if_neg hc, ih fun hmem => h (List.mem_cons_of_mem c hmem)]
    rfl

lemma splitOn_eq (sep : Char) (cs : List Char) : splitOn sep cs = cs.splitOn sep := by
  rw [List.splitOn_eq_splitOnP]
  induction cs with
  | nil => rfl
  | cons c cs ih =>
    rw [splitOn, List.splitOnP_cons_eq_if_modifyHead, ih]
    by_cases hc : c = sep
    · rw [if_pos hc, if_pos (beq_iff_eq.mpr hc)]
    · rw [if_neg hc, if_neg (by simpa using hc)]
      cases hcs : cs.splitOnP fun d => d == sep with
      | nil => exact absurd hcs (List.splitOnP_ne_nil _ cs)
      | cons piece pieces => rfl

end Text

namespace Expression

/-- An operator with its operand. -/
def written (operator operand : String) : String := operator ++ ":" ++ operand

/-- Values with commas between them, in brackets. -/
def inBrackets (values : List String) : String := "(" ++ ",".intercalate values ++ ")"

/-- Whether a text can be a value of a written list. -/
def IsItem (value : String) : Prop := Text.trimmed value = value ∧ ',' ∉ value.toList

instance (value : String) : Decidable (IsItem value) := inferInstanceAs (Decidable (_ ∧ _))

variable {field name value : String} {op : Operator} {values : List String}

/-- What stands in round or square brackets is cut at its commas. -/
lemma readList_brackets {text : String} {left right : Char} {inner : List Char}
    (htext : text.toList = left :: (inner ++ [right]))
    (hends : (left, right) ∈ [('(', ')'), ('[', ']')]) :
    readList text.toList =
      if inner.isEmpty then [] else (Text.splitOn ',' inner).map Text.trim := by
  have hends : (left = '(' ∧ right = ')') ∨ left = '[' ∧ right = ']' := by simpa using hends
  have htrim : Text.trim text.toList = text.toList := by
    rw [htext]
    rcases hends with ⟨rfl, rfl⟩ | ⟨rfl, rfl⟩ <;> exact Text.trim_of_ends (by decide) (by decide) inner
  have hinner : ((between? '(' ')' text.toList) <|> (between? '[' ']' text.toList)) = some inner := by
    rw [htext]
    rcases hends with ⟨rfl, rfl⟩ | ⟨rfl, rfl⟩ <;> simp [between?]
  rw [readList, htrim, hinner]
  rfl

/-- The values of a written list are read back. The list of the empty text alone is written like the
empty list. -/
lemma readList_of_brackets {text : String} {left right : Char}
    (htext : text.toList = left :: ([','].intercalate (values.map String.toList) ++ [right]))
    (hends : (left, right) ∈ [('(', ')'), ('[', ']')]) (hv : ∀ v ∈ values, IsItem v)
    (hne : values ≠ []) (hs : values ≠ [""]) : (readList text.toList).map String.ofList = values := by
  have hpieces : Text.splitOn ',' ([','].intercalate (values.map String.toList)) =
      values.map String.toList := by
    rw [Text.splitOn_eq]
    apply List.splitOn_intercalate
    · intro cs hcs
      obtain ⟨v, hmem, rfl⟩ := List.mem_map.mp hcs
      exact (hv v hmem).2
    · simpa using hne
  -- Nothing between the brackets would mean one value, and that one empty.
  have hsome : ([','].intercalate (values.map String.toList)).isEmpty = false := by
    rw [Bool.eq_false_iff]
    intro hempty
    rw [List.isEmpty_iff.mp hempty] at hpieces
    cases values with
    | nil => exact hne rfl
    | cons v vs =>
      obtain ⟨hnil, hvs⟩ := List.cons.inj hpieces
      obtain rfl : vs = [] := by simpa using hvs.symm
      exact hs (by rw [String.toList_eq_nil_iff.mp hnil.symm])
  rw [readList_brackets htext hends, hsome, if_neg Bool.false_ne_true, hpieces, List.map_map, List.map_map]
  refine (List.map_congr_left fun v hmem => ?_).trans (List.map_id values)
  exact (hv v hmem).1

lemma toList_bracketed (left right : String) (values : List String) :
    (left ++ ",".intercalate values ++ right).toList =
      left.toList ++ [','].intercalate (values.map String.toList) ++ right.toList := by
  rw [String.toList_append, String.toList_append, String.toList_intercalate]
  rfl

lemma cutAt?_written (hn : ':' ∉ name.toList) (value : String) :
    Text.cutAt? ':' (written name value).toList = some (name.toList, value.toList) := by
  rw [written, String.toList_append, String.toList_append, List.append_assoc]
  exact Text.cutAt?_append hn value.toList

/-- An expression is read as the operator that stands before its first colon. -/
lemma parse_written (h : Operator.named? name = some op) (hn : ':' ∉ name.toList)
    (field value : String) :
    parse field (written name value) = (operand? field op value.toList).map fun x => ⟨op, x⟩ := by
  rw [parse, read, cutAt?_written hn]
  dsimp only
  rw [String.ofList_toList, h]
  dsimp only
  cases operand? field op value.toList <;> rfl

/-- The operand of an operator on single values is what stands behind the colon. -/
lemma parse_scalar (h : Operator.named? name = some op) (hn : ':' ∉ name.toList)
    (hl : op.takesList = false) (hf : op.flag = false) (field value : String) :
    parse field (written name value) = .ok ⟨op, .scalar value⟩ := by
  rw [parse_written h hn, operand?, hl, hf, String.ofList_toList]
  rfl

/-- A list is taken if the operator allows for as many values. -/
lemma operand?_list (hl : op.takesList = true) {value : String}
    (hread : (readList value.toList).map String.ofList = values) :
    operand? field op value.toList =
      if op.minValues ≤ values.length ∧ values.length ≤ op.maxValues then .ok (.list values)
      else .error (.arityViolation field op values.length) := by
  rw [operand?, hl, if_pos rfl, hread]
  dsimp only
  split
  · rename_i h
    have hnot : ¬(op.minValues ≤ values.length ∧ values.length ≤ op.maxValues) := by
      simp only [Bool.or_eq_true, decide_eq_true_eq] at h
      omega
    rw [if_neg hnot]
  · rename_i h
    have hwithin : op.minValues ≤ values.length ∧ values.length ≤ op.maxValues := by
      simp only [Bool.or_eq_true, decide_eq_true_eq] at h
      omega
    rw [if_pos hwithin]

/-- The operand of an operator on lists is the list that is written, if the operator takes as many
values. -/
lemma parse_list (h : Operator.named? name = some op) (hn : ':' ∉ name.toList)
    (hl : op.takesList = true) (hv : ∀ v ∈ values, IsItem v) (hne : values ≠ [])
    (hs : values ≠ [""]) (hmin : op.minValues ≤ values.length)
    (hmax : values.length ≤ op.maxValues) (field : String) :
    parse field (written name (inBrackets values)) = .ok ⟨op, .list values⟩ := by
  have hread : (readList (inBrackets values).toList).map String.ofList = values :=
    readList_of_brackets (toList_bracketed "(" ")" values) (by decide) hv hne hs
  rw [parse_written h hn, operand?_list hl hread, if_pos ⟨hmin, hmax⟩]
  rfl

/-- Operators of one arity take the same operands. -/
lemma operand?_ok_congr {op' : Operator} (hl : op.takesList = op'.takesList)
    (hmin : op.minValues = op'.minValues) (hmax : op.maxValues = op'.maxValues)
    (hf : op.flag = op'.flag) {cs : List Char} {x : Operand} :
    operand? field op cs = .ok x ↔ operand? field op' cs = .ok x := by
  rw [operand?, operand?, hl, hmin, hmax, hf]
  dsimp only
  split
  · split <;> simp
  · split
    · split <;> simp
    · exact .rfl

end Expression

end RowQuery
