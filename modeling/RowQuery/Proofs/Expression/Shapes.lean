import RowQuery.Proofs.Expression.Complete
import RowQuery.Proofs.Filter.Lists

/-!
The shapes of operands. Operators say how many values they take, and comparisons whether they compare with
one value, with a list or with a pair. The two agree: an expression that is read has an operand that `Suits`
its comparison, and no converter changes this. So the store can only refuse a value of such an operand, or
not know the column: `shapes_suit_store`.
-/

namespace RowQuery

open Outcome

/-- The operand has the shape that the comparison takes. -/
inductive Operand.Suits : Comparison → Operand → Prop where
  | scalar {c : Comparison} {x : String} : c ≠ .oneOf → c ≠ .range → Suits c (.scalar x)
  | oneOf {xs : List String} : Suits .oneOf (.list xs)
  | range {low high : String} : Suits .range (.list [low, high])

/-- Converting values keeps the shape. -/
lemma Operand.Suits.map {c : Comparison} {operand : Operand} (h : operand.Suits c) (f : String → String) :
    (operand.map f).Suits c := by
  cases h with
  | scalar hlist hrange => exact .scalar hlist hrange
  | oneOf => exact .oneOf
  | range => exact .range

namespace Operator

variable {op : Operator}

/-- An operator on lists compares with as many values as it takes. -/
lemma comparison_of_takesList (h : op ∈ all) (hl : op.takesList = true) :
    op.comparison = .oneOf ∨ op.comparison = .range ∧ op.minValues = 2 ∧ op.maxValues = 2 := by
  revert op
  decide

/-- An operator on single values compares with one value. -/
lemma comparison_of_not_takesList (h : op ∈ all) (hl : op.takesList = false) :
    op.comparison ≠ .oneOf ∧ op.comparison ≠ .range := by
  revert op
  decide

/-- The operator for null takes a flag. -/
lemma flag_of_isNull (h : op ∈ all) (hn : op.name = "isnull") :
    op.takesList = false ∧ op.flag = true ∧ op.comparison = .isNull := by
  revert op
  decide

/-- The operators for parts of texts compare with parts of texts. -/
lemma comparison_of_like (h : op ∈ all) (hn : op.name = "like" ∨ op.name = "unlike") :
    op.comparison = .contains := by
  revert op
  decide

end Operator

namespace Expression

variable {field text : String} {op : Operator} {cs : List Char} {x : Operand}

/-- What is read for an operator suits its comparison. -/
lemma operand?_suits (hop : op ∈ Operator.all) (h : operand? field op cs = .ok x) :
    x.Suits op.comparison := by
  cases hl : op.takesList with
  | true =>
    rw [operand?, hl, if_pos rfl] at h
    dsimp only at h
    split at h
    · cases h
    · rename_i hlength
      cases h
      obtain hc | ⟨hc, hmin, hmax⟩ := Operator.comparison_of_takesList hop hl
      · rw [hc]
        exact .oneOf
      · have hpair : ((readList cs).map String.ofList).length = 2 := by
          simp only [Bool.or_eq_true, decide_eq_true_eq] at hlength
          omega
        obtain ⟨low, high, hpair⟩ := List.length_eq_two.mp hpair
        rw [hc, hpair]
        exact .range
  | false =>
    obtain ⟨hlist, hrange⟩ := Operator.comparison_of_not_takesList hop hl
    rw [operand?, hl, if_neg Bool.false_ne_true] at h
    split at h
    · split at h
      · cases h
        exact .scalar hlist hrange
      · cases h
    · cases h
      exact .scalar hlist hrange

/-- A flag is the text of an integer of 64 bits. -/
lemma exists_flag (hl : op.takesList = false) (hf : op.flag = true)
    (h : operand? field op cs = .ok x) :
    ∃ n, Numeric.fitsInt64 n = true ∧ x = .scalar (Numeric.intText n) := by
  cases hn : Numeric.readInt64? (Text.trim cs) with
  | none =>
    rw [operand?_no_flag hl hf hn] at h
    cases h
  | some n =>
    rw [operand?_flag hl hf hn] at h
    cases h
    exact ⟨n, (Numeric.readInt64?_trim_iff.mp hn).1, rfl⟩

end Expression

namespace CellTest

variable {kind : ColumnKind} {path : String} {c : Comparison} {x : Operand} {e : StoreError}

/-- With an operand of the right shape a comparison fails only for a value. -/
lemma ofLookup_error_of_suits (h : x.Suits c) (he : ofLookup kind ⟨path, c, x⟩ = .error e) :
    ∃ raw expected, e = .typeMismatch path raw expected := by
  cases h with
  | scalar hlist hrange =>
    cases c with
    | exact | less | atMost | greater | atLeast =>
      rw [ofLookup] at he
      dsimp only at he
      rw [typedScalar_eq _ rfl, map_error_iff] at he
      exact ⟨_, _, ColumnKind.coerce_error he⟩
    | contains => cases he
    | oneOf => exact absurd rfl hlist
    | range => exact absurd rfl hrange
    | isNull =>
      obtain he | ⟨_, hx, he⟩ := bind_error_iff.mp he
      · cases he
      · cases hx
        obtain he | ⟨_, _, he⟩ := bind_error_iff.mp he
        · exact ⟨_, _, coerceFlag_error he⟩
        · cases he
  | oneOf =>
    rw [ofLookup_oneOf, map_error_iff, mapM_error_iff] at he
    obtain ⟨-, _, -, -, -, he⟩ := he
    exact ⟨_, _, ColumnKind.coerce_error he⟩
  | @range low high =>
    replace he : (do return CellTest.range (← kind.coerce low path) (← kind.coerce high path)) =
      Except.error e := he
    obtain he | ⟨_, _, he⟩ := bind_error_iff.mp he
    · exact ⟨_, _, ColumnKind.coerce_error he⟩
    · obtain he | ⟨_, _, he⟩ := bind_error_iff.mp he
      · exact ⟨_, _, ColumnKind.coerce_error he⟩
      · cases he

/-- A part of a text is always accepted. -/
lemma exists_ofLookup_contains (h : x.Suits .contains) :
    ∃ test, ofLookup kind ⟨path, .contains, x⟩ = .ok test := by
  cases h with
  | scalar _ _ => exact ⟨_, rfl⟩

/-- A flag is always accepted. -/
lemma exists_ofLookup_flag {n : Int} (hn : Numeric.fitsInt64 n = true) :
    ∃ test, ofLookup kind ⟨path, .isNull, .scalar (Numeric.intText n)⟩ = .ok test := by
  have hread : Numeric.readInt64? (Text.trim (Numeric.intText n).toList) = some n := by
    refine Numeric.readInt64?_trim_iff.mpr ⟨hn, ?_⟩
    rw [Numeric.intText, String.toList_ofList]
    exact Numeric.spells_intDigits n
  exact ⟨_, ofLookup_of_made (.isNull hread) path⟩

end CellTest

namespace RowTest

variable {s : Schema} {path : String} {c : Comparison} {x : Operand}

/-- What is accepted for the cells of any kind is accepted for a column. -/
lemma exists_ofLookup (hpath : path ∈ s.columns.map Column.name)
    (h : ∀ kind, ∃ test, CellTest.ofLookup kind ⟨path, c, x⟩ = .ok test) :
    ∃ test, ofLookup s ⟨path, c, x⟩ = .ok test := by
  obtain ⟨i, kind, hcolumn⟩ := exists_ofLookup_of_mem hpath
  obtain ⟨test, htest⟩ := h kind
  exact ⟨.cell i test, by rw [hcolumn, htest]; rfl⟩

/-- With an operand of the right shape a comparison of a column fails only for a value. -/
lemma outcome_of_suits (hx : x.Suits c) (hpath : path ∈ s.columns.map Column.name) :
    (∃ test, ofLookup s ⟨path, c, x⟩ = .ok test) ∨
      ∃ raw expected, ofLookup s ⟨path, c, x⟩ = .error (.typeMismatch path raw expected) := by
  obtain ⟨i, kind, hcolumn⟩ := exists_ofLookup_of_mem hpath
  rw [hcolumn]
  cases htest : CellTest.ofLookup kind ⟨path, c, x⟩ with
  | ok test => exact .inl ⟨_, rfl⟩
  | error e =>
    obtain ⟨raw, expected, rfl⟩ := CellTest.ofLookup_error_of_suits hx htest
    exact .inr ⟨raw, expected, rfl⟩

end RowTest

/-- The comparison that an accepted expression asks of a field with a path is refused by the store only for
a value or for the column: never for the shape of its operand, for the column iff the table has none of that
name, and otherwise for a value of the column, if at all. With a column that exists a part of a text is
always accepted, and so is a flag that no converter changes. -/
theorem Expression.shapes_suit_store {field text : String} {e : Expression}
    (he : parse field text = .ok e) {f : Field} {path : String} (hp : f.path? = some path) (s : Schema) :
    ∃ p, f.predicate e.operator.comparison e.operand = .ok p ∧
      let compiled := RowTest.ofPredicate s p
      (∀ q fault, compiled ≠ .error (.invalidOperand q fault)) ∧
      (∀ q, compiled = .error (.unknownColumn q) ↔ q = path ∧ path ∉ s.columns.map Column.name) ∧
      (path ∈ s.columns.map Column.name →
        ((∃ test, compiled = .ok test) ∨
          ∃ raw expected, compiled = .error (.typeMismatch path raw expected)) ∧
        (e.operator.name = "isnull" → f.converter = none → ∃ test, compiled = .ok test) ∧
        (e.operator.name = "like" ∨ e.operator.name = "unlike" → ∃ test, compiled = .ok test)) := by
  obtain ⟨hop, value, hx⟩ := operand?_of_parse he
  have hsuits := (operand?_suits hop hx).map f.conversion
  refine ⟨_, Field.predicate_path hp _ _, ?_⟩
  intro compiled
  by_cases hpath : path ∈ s.columns.map Column.name
  · have outcome : (∃ test, compiled = .ok test) ∨
        ∃ raw expected, compiled = .error (.typeMismatch path raw expected) :=
      RowTest.outcome_of_suits hsuits hpath
    refine ⟨fun q fault h => ?_, fun q => ⟨fun h => ?_, fun h => absurd hpath h.2⟩,
      fun _ => ⟨outcome, fun hn hconverter => ?_, fun hn => ?_⟩⟩
    · obtain ⟨test, ht⟩ | ⟨raw, expected, ht⟩ := outcome <;> rw [h] at ht <;> cases ht
    · obtain ⟨test, ht⟩ | ⟨raw, expected, ht⟩ := outcome <;> rw [h] at ht <;> cases ht
    · obtain ⟨hl, hf, hc⟩ := Operator.flag_of_isNull hop hn
      obtain ⟨n, hfits, hflag⟩ := exists_flag hl hf hx
      have hid : f.conversion = id := by rw [Field.conversion, hconverter]; rfl
      show ∃ test, RowTest.ofLookup s ⟨path, e.operator.comparison, e.operand.map f.conversion⟩ =
        .ok test
      rw [hc, hflag, hid]
      exact RowTest.exists_ofLookup hpath fun kind => CellTest.exists_ofLookup_flag hfits
    · have hc := Operator.comparison_of_like hop hn
      rw [hc] at hsuits
      show ∃ test, RowTest.ofLookup s ⟨path, e.operator.comparison, e.operand.map f.conversion⟩ =
        .ok test
      rw [hc]
      exact RowTest.exists_ofLookup hpath fun kind => CellTest.exists_ofLookup_contains hsuits
  · have hcompiled : compiled = .error (.unknownColumn path) := RowTest.ofLookup_of_not_mem hpath _ _
    rw [hcompiled]
    refine ⟨fun q fault h => ?_, fun q => ?_, fun h => absurd h hpath⟩
    · cases h
    · simp [hpath, eq_comm]

/-- A range of numbers of cities, the second of which is none once the sign before it is taken off. -/
theorem Expression.cityNumber_suits_store :
    let operator : Operator :=
      ⟨"between", .range, "field is in a range of two values (inclusive)", false, 2, 2, false⟩
    let e : Expression := ⟨operator, .list ["#1", "#x"]⟩
    parse "number" "between:[#1, #x]" = .ok e ∧ Dataset.cityNumber.path? = some "id" ∧
    ∃ p, Dataset.cityNumber.predicate e.operator.comparison e.operand = .ok p ∧
      let columns := Dataset.cities.schema.columns
      let compiled := RowTest.ofPredicate Dataset.cities.schema p
      (∀ q fault, compiled ≠ .error (.invalidOperand q fault)) ∧
      (∀ q, compiled = .error (.unknownColumn q) ↔ q = "id" ∧ "id" ∉ columns.map Column.name) ∧
      ("id" ∈ columns.map Column.name →
        ((∃ test, compiled = .ok test) ∨
          ∃ raw expected, compiled = .error (.typeMismatch "id" raw expected)) ∧
        (e.operator.name = "isnull" → Dataset.cityNumber.converter = none →
          ∃ test, compiled = .ok test) ∧
        (e.operator.name = "like" ∨ e.operator.name = "unlike" → ∃ test, compiled = .ok test)) := by
  intro operator e
  have he : parse "number" "between:[#1, #x]" = .ok e := rfl
  have hp : Dataset.cityNumber.path? = some "id" := rfl
  exact ⟨he, hp, shapes_suit_store he hp Dataset.cities.schema⟩

end RowQuery
