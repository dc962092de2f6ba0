import RowQuery.Text.Blank

/-!
Cutting a text at a separator, and joining pieces with one. `splitOn` keeps every piece, empty ones
included; `items` trims the pieces between commas and drops those that are empty.
-/

namespace RowQuery.Text

/-- The pieces of a text between the occurrences of `sep`; there is always at least one. -/
def splitOn (sep : Char) : List Char → List (List Char)
  | [] => [[]]
  | c :: cs =>
    if c = sep then [] :: splitOn sep cs
    else
      match splitOn sep cs with
      | [] => [[c]]
      | piece :: pieces => (c :: piece) :: pieces

/-- The texts joined with `sep` between neighbours. -/
def joinWith (sep : Char) : List (List Char) → List Char
  | [] => []
  | [piece] => piece
  | piece :: pieces => piece ++ sep :: joinWith sep pieces

/-- The text before and after the first `sep`, if there is one. -/
def cutAt? (sep : Char) : List Char → Option (List Char × List Char)
  | [] => none
  | c :: cs =>
    if c = sep then some ([], cs)
    else (cutAt? sep cs).map fun (before, after) => (c :: before, after)

theorem splitOn_ne_nil (sep : Char) (cs : List Char) : splitOn sep cs ≠ [] := by
  cases cs with
  | nil => simp [splitOn]
  | cons c cs =>
    simp only [splitOn]
    split
    · simp
    · split <;> simp

/-- The trimmed pieces between commas, without the empty ones. -/
def items (cs : List Char) : List (List Char) :=
  ((splitOn ',' cs).map trim).filter (fun piece => !piece.isEmpty)

/-- The trimmed pieces of a string between commas, without the empty ones. -/
def itemStrings (s : String) : List String := (items s.toList).map String.ofList

/-- Whether `needle` occurs in the text as a block of neighbouring characters. -/
def occursIn (needle : List Char) : List Char → Bool
  | [] => needle.isEmpty
  | c :: cs => needle.isPrefixOf (c :: cs) || occursIn needle cs

end RowQuery.Text
