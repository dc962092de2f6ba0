import RowQuery.Expression
import RowQuery.Proofs.Table.Comparisons
import RowQuery.Search
import RowQuery.Sorting

/-!
What a query means. The definitions say it of typed cells and the native order of values, without
conditions, catalogs and tests made ready: which cells an expression selects, which cells hold a search
term, which rows a query shows, and in which order it puts them.
-/

namespace RowQuery

/-- Whether the text is a part of the text of a cell, whatever the case of letters. -/
def Value.hasPart (cell : Value) (part : String) : Bool :=
  !cell.isNull && decide (Text.lower part.toList <:+: Text.lower cell.write)

/-- A text is a part of the text of a cell iff the store finds it there. -/
lemma CellTest.holds_contains (cell : Value) (part : String) :
    (contains (Text.lower part.toList)).holds cell = cell.hasPart part := by
  unfold holds Value.hasPart
  cases cell.isNull with
  | true => rfl
  | false =>
    rw [if_neg Bool.false_ne_true, Bool.not_false, Bool.true_and, Bool.eq_iff_iff, holdsFor,
      Text.occursIn_iff, decide_eq_true_eq]

namespace Expression

/-- Whether a cell meets an operator that is not negated, given by its name. An operand that is no
value of the column is met by no cell. -/
def meets (kind : ColumnKind) (cell : Value) (operator : String) (operand : Operand) : Bool :=
  match operator, operand with
  | "eq", .scalar x => (kind.read? x).any fun v => cell.same v
  | "lt", .scalar x => (kind.read? x).any fun v => cell.below v
  | "le", .scalar x => (kind.read? x).any fun v => cell.below v || cell.same v
  | "gt", .scalar x => (kind.read? x).any fun v => v.below cell
  | "ge", .scalar x => (kind.read? x).any fun v => v.below cell || cell.same v
  | "like", .scalar x => cell.hasPart x
  | "in", .list xs => xs.any fun x => (kind.read? x).any fun v => cell.same v
  | "between", .list [x, y] =>
    ((kind.read? x).any fun v => v.below cell || cell.same v) &&
      (kind.read? y).any fun v => cell.below v || cell.same v
  | "isnull", .scalar x =>
    (Numeric.readInt64? (Text.trim x.toList)).any fun n => cell.isNull == decide (n ≠ 0)
  | _, _ => false

/-- Whether an expression selects a cell: three operators are the complements of others. -/
def selects (e : Expression) (kind : ColumnKind) (cell : Value) : Bool :=
  match e.operator.name with
  | "ne" => !meets kind cell "eq" e.operand
  | "unlike" => !meets kind cell "like" e.operand
  | "out" => !meets kind cell "in" e.operand
  | name => meets kind cell name e.operand

/-- An expression that is read has an operator of the list, and an operand that is read for it. -/
lemma operand?_of_parse {field text : String} {e : Expression} (h : parse field text = .ok e) :
    e.operator ∈ Operator.all ∧ ∃ value, operand? field e.operator value = .ok e.operand := by
  rw [parse, read] at h
  split at h
  · obtain ⟨operand, hx, h⟩ := Outcome.bind_ok_iff.mp h
    cases h
    exact ⟨List.mem_cons_self, _, hx⟩
  · split at h
    · cases h
    · rename_i hfind
      obtain ⟨operand, hx, h⟩ := Outcome.bind_ok_iff.mp h
      cases h
      exact ⟨List.mem_of_find?_eq_some hfind, _, hx⟩

/-- The name of the operator that asks for a comparison as it is. -/
def plainName : Comparison → String
  | .exact => "eq"
  | .less => "lt"
  | .atMost => "le"
  | .greater => "gt"
  | .atLeast => "ge"
  | .contains => "like"
  | .oneOf => "in"
  | .range => "between"
  | .isNull => "isnull"

/-- Each operator asks for its comparison as it is, or for the complement of it. -/
lemma selects_eq {e : Expression} (ho : e.operator ∈ Operator.all) (kind : ColumnKind)
    (cell : Value) : e.selects kind cell =
      if e.operator.negated then !meets kind cell (plainName e.operator.comparison) e.operand
      else meets kind cell (plainName e.operator.comparison) e.operand := by
  obtain ⟨operator, operand⟩ := e
  simp only [Operator.all, List.mem_cons, List.not_mem_nil, or_false] at ho
  rcases ho with rfl | rfl | rfl | rfl | rfl | rfl | rfl | rfl | rfl | rfl | rfl | rfl <;> rfl

/-- The test of a comparison passes the cells that meet its operator. -/
lemma holds_eq_meets {kind : ColumnKind} {c : Comparison} {operand : Operand} {test : CellTest}
    {cell : Value} (hm : CellTest.Made kind c operand test) (hc : kind.Admits cell) :
    test.holds cell = meets kind cell (plainName c) operand := by
  cases hm with
  | exact hv =>
    rw [CellTest.holds_exact hc (ColumnKind.read?_is hv), plainName, meets, hv, Option.any_some]
  | less hv =>
    rw [CellTest.holds_less hc (ColumnKind.read?_is hv), plainName, meets, hv, Option.any_some]
  | atMost hv =>
    rw [CellTest.holds_atMost hc (ColumnKind.read?_is hv), plainName, meets, hv, Option.any_some]
  | greater hv =>
    rw [CellTest.holds_greater hc (ColumnKind.read?_is hv), plainName, meets, hv, Option.any_some]
  | atLeast hv =>
    rw [CellTest.holds_atLeast hc (ColumnKind.read?_is hv), plainName, meets, hv, Option.any_some]
  | contains => exact CellTest.holds_contains cell _
  | oneOf hvs => exact CellTest.holds_oneOf hc hvs
  | range hl hh =>
    rw [CellTest.holds_range hc (ColumnKind.read?_is hl) (ColumnKind.read?_is hh), plainName, meets,
      hl, hh, Option.any_some, Option.any_some]
  | @isNull x n hn =>
    rw [plainName, meets, hn, Option.any_some]
    rcases hc with rfl | hc
    · cases decide (n ≠ 0) <;> rfl
    · rw [CellTest.holds_of_is _ hc, hc.isNull]
      cases decide (n ≠ 0) <;> rfl

end Expression

/-- Whether a cell holds a search term: a text as a part of it, a number as the term's own. -/
def Search.finds (term : String) (kind : ColumnKind) (cell : Value) : Bool :=
  match kind with
  | .char | .text => cell.hasPart term
  | .integer | .autoId =>
    !term.toList.isEmpty && term.toList.all Numeric.isDigit &&
      (Numeric.parseInt64? term).any fun n => cell = .int n
  | _ => false

namespace Schema

/-- The cell of a row under the name of a column. -/
def cell (s : Schema) (row : Row) (name : String) : Value :=
  ((s.columns.zip row).find? fun x => x.1.name == name).elim .null Prod.snd

/-- The column that a sort term names; a second name stands for the primary key. -/
def sortName (s : Schema) (t : OrderTerm) : String :=
  if t.source = Sorting.keyAlias then s.primaryKey else t.source

/-- Whether a row may stand before another one: by the first term whose cells are not equal, and a
descending term reverses its order. -/
def inOrder (s : Schema) : List OrderTerm → Row → Row → Bool
  | [], _, _ => true
  | t :: ts, a, b =>
    let first := s.cell (if t.descending then b else a) (s.sortName t)
    let second := s.cell (if t.descending then a else b) (s.sortName t)
    first.precedes second || !second.precedes first && s.inOrder ts a b

end Schema

/-- The last value that a name has among the parameters. -/
def lastValue? (pairs : List (String × String)) (name : String) : Option String :=
  (pairs.filter fun pair => pair.1 == name).getLast?.map Prod.snd

/-- The terms that a query looks for. -/
def searchTerms (config : Config) (pairs : List (String × String)) : List String :=
  SearchTerms.parse ((lastValue? pairs config.searchParam).getD "")

namespace Schema

/-- The terms that a query is sorted by: those that it spells, and the primary key behind them. -/
def sortTerms (s : Schema) (config : Config) (pairs : List (String × String)) : List OrderTerm :=
  Sorting.withKey s.primaryKey
    ((((lastValue? pairs config.orderingParam).map Text.itemStrings).getD []).map OrderTerm.parse)

/-- A query shows a row if each parameter that is no special one selects the cell under its column,
and each search term is found in some cell. -/
def Shows (s : Schema) (config : Config) (pairs : List (String × String)) (row : Row) : Prop :=
  (∀ pair ∈ pairs, config.isIgnored pair.1 = false →
    ∃ e ∈ (Expression.parse pair.1 pair.2).toOption, ∃ x ∈ s.columns.zip row,
      x.1.name = pair.1 ∧ e.selects x.1.kind x.2 = true) ∧
  ∀ term ∈ searchTerms config pairs, ∃ x ∈ s.columns.zip row, Search.finds term x.1.kind x.2 = true

instance (s : Schema) (config : Config) (pairs : List (String × String)) (row : Row) :
    Decidable (s.Shows config pairs row) := inferInstanceAs (Decidable (_ ∧ _))

end Schema

end RowQuery
