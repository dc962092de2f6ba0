import RowQuery.Predicate
import RowQuery.Text.Case
import RowQuery.Text.Split
import RowQuery.Value.Coercion

/-!
Conditions made ready for the rows of one table: paths are resolved to places in the row, and
operands are read as values of the columns. Whatever is wrong with a condition is found here; a test
that has been made answers for every row. A comparison with a null cell is false, so its negation is
true.
-/

namespace RowQuery

/-- A row: one cell for each column, in the order of the columns. -/
abbrev Row : Type := List Value

/-- A comparison with one cell. -/
inductive CellTest where
  | exact (v : Value)
  | less (v : Value)
  | atMost (v : Value)
  | greater (v : Value)
  | atLeast (v : Value)
  /-- The lower-case text of the cell holds the given one. -/
  | contains (needle : List Char)
  | oneOf (vs : List Value)
  | range (low high : Value)
  | isNull (expected : Bool)
deriving DecidableEq

namespace CellTest

/-- The value of an operand that has to be one. -/
def scalar (l : Lookup) : Except StoreError String :=
  match l.operand with
  | .scalar value => .ok value
  | .list _ => .error (.invalidOperand l.path (.notScalar l.comparison))

/-- The values of an operand that has to be a list. -/
def list (l : Lookup) : Except StoreError (List String) :=
  match l.operand with
  | .list values => .ok values
  | .scalar _ => .error (.invalidOperand l.path (.notList l.comparison))

/-- The test that a comparison means for a column of the given kind. -/
def ofLookup (kind : ColumnKind) (l : Lookup) : Except StoreError CellTest :=
  let typed (raw : String) : Except StoreError Value := kind.coerce raw l.path
  match l.comparison with
  | .exact => do return exact (← typed (← scalar l))
  | .less => do return less (← typed (← scalar l))
  | .atMost => do return atMost (← typed (← scalar l))
  | .greater => do return greater (← typed (← scalar l))
  | .atLeast => do return atLeast (← typed (← scalar l))
  | .contains => do return contains (Text.lower (← scalar l).toList)
  | .oneOf => do return oneOf (← (← list l).mapM typed)
  | .range => do
    match ← list l with
    | [low, high] => return range (← typed low) (← typed high)
    | values => .error (.invalidOperand l.path (.notPair values.length))
  | .isNull => do return isNull (← coerceFlag (← scalar l) l.path)

/-- Whether a cell compares with a value in a way that `accepts` takes. -/
def compares (accepts : Ordering → Bool) (cell value : Value) : Bool :=
  (Value.compare? cell value).any accepts

/-- Whether a cell that is not null passes the test. -/
def holdsFor (test : CellTest) (cell : Value) : Bool :=
  match test with
  | exact v => cell.equal v
  | less v => compares Ordering.isLT cell v
  | atMost v => compares Ordering.isLE cell v
  | greater v => compares Ordering.isGT cell v
  | atLeast v => compares Ordering.isGE cell v
  | contains needle => Text.occursIn needle (Text.lower cell.write)
  | oneOf vs => vs.any cell.equal
  | range low high => compares Ordering.isGE cell low && compares Ordering.isLE cell high
  | isNull expected => !expected

/-- Whether a cell passes the test. -/
def holds (test : CellTest) (cell : Value) : Bool :=
  if cell.isNull then
    match test with
    | isNull expected => expected
    | _ => false
  else test.holdsFor cell

end CellTest

/-- A condition made ready for the rows of a table. -/
inductive RowTest where
  /-- The cell at a place passes a test. -/
  | cell (index : Nat) (test : CellTest)
  | and (children : List RowTest)
  | or (children : List RowTest)
  | not (child : RowTest)

namespace RowTest

/-- The test that a comparison means for a table. -/
def ofLookup (s : Schema) (l : Lookup) : Except StoreError RowTest :=
  match s.columnIndex? l.path, s.column? l.path with
  | some index, some column => (CellTest.ofLookup column.kind l).map (cell index)
  | _, _ => .error (.unknownColumn l.path)

mutual

/-- The test that a condition means for a table. -/
def ofPredicate (s : Schema) : Predicate → Except StoreError RowTest
  | .lookup l => ofLookup s l
  | .and children => (ofPredicates s children).map and
  | .or children => (ofPredicates s children).map or
  | .not child => (ofPredicate s child).map not

/-- The tests that a list of conditions means for a table; the first that fails counts. -/
def ofPredicates (s : Schema) : List Predicate → Except StoreError (List RowTest)
  | [] => .ok []
  | p :: ps => do
    let test ← ofPredicate s p
    let tests ← ofPredicates s ps
    return test :: tests

end

mutual

/-- Whether a row passes the test. -/
def holds (row : Row) : RowTest → Bool
  | cell index test => (row[index]?).any test.holds
  | and children => allHold row children
  | or children => someHolds row children
  | not child => !holds row child

/-- Whether a row passes every test. -/
def allHold (row : Row) : List RowTest → Bool
  | [] => true
  | test :: tests => holds row test && allHold row tests

/-- Whether a row passes some test. -/
def someHolds (row : Row) : List RowTest → Bool
  | [] => false
  | test :: tests => holds row test || someHolds row tests

end

end RowTest

end RowQuery
