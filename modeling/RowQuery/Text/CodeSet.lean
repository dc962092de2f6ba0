/-!
Sets of characters. A set is given by the ascending list of code points at which membership
changes: outside before the first, inside from the first on, outside again from the second on,
and so forth.
-/

namespace RowQuery.Text

/-- A set of characters, as the ascending code points at which membership changes. -/
structure CodeSet where
  edges : List Nat

namespace CodeSet

/-- Whether an odd number of the edges lies at or below `n`. -/
def insideEdges : List Nat → Nat → Bool
  | [], _ => false
  | e :: rest, n => e ≤ n && !insideEdges rest n

/-- Whether the character belongs to the set. -/
def contains (s : CodeSet) (c : Char) : Bool := insideEdges s.edges c.toNat

end CodeSet

end RowQuery.Text
