import RowQuery.Text.Blank

/-!
Free-text queries. Blanks separate terms, and what stands between two double quotes is one term. The
blanks at the ends of a term are dropped, and a run of two or more of them inside it becomes one
space. A quote that no other one follows, and one that is followed at once, belong to a word.
-/

namespace RowQuery.SearchTerms

/-- A run of blanks: none and a single one stay, more of them become one space. -/
def squeezeRun : List Char → List Char
  | [] => []
  | [c] => [c]
  | _ => [' ']

/-- Squeezes the runs of blanks of a text that stands behind the blanks `run`. -/
def squeezeAfter (run : List Char) : List Char → List Char
  | [] => squeezeRun run
  | c :: cs =>
    if Text.isBlank c then squeezeAfter (run ++ [c]) cs
    else squeezeRun run ++ c :: squeezeAfter [] cs

/-- Makes every run of two or more blanks one space. -/
def squeeze (cs : List Char) : List Char := squeezeAfter [] cs

/-- The term that a piece of a query means. -/
def term (piece : List Char) : List Char := squeeze (Text.trim piece)

/-- Splits a text at its first quote, which has to follow at least one other character. -/
def quotedRun? (cs : List Char) : Option (List Char × List Char) :=
  match cs.takeWhile (· ≠ '"'), cs.dropWhile (· ≠ '"') with
  | c :: inner, _ :: rest => some (c :: inner, rest)
  | _, _ => none

/-- What stands behind a quoted run is shorter than the text. -/
theorem length_lt_of_quotedRun? {cs inner rest : List Char}
    (h : quotedRun? cs = some (inner, rest)) : rest.length < cs.length := by
  unfold quotedRun? at h
  split at h
  · rename_i c inner' d rest' _ hd
    have hle : (cs.dropWhile (· ≠ '"')).length ≤ cs.length :=
      (List.dropWhile_suffix _).length_le
    obtain ⟨-, rfl⟩ := Prod.mk.inj (Option.some.inj h)
    rw [hd, List.length_cons] at hle
    omega
  · simp at h

/-- Whether the character may stand in a word. -/
def inWord (c : Char) : Bool := !Text.isBlank c

/-- The pieces of a query: words, and what stands between quotes. -/
def pieces : List Char → List (List Char)
  | [] => []
  | c :: cs =>
    if c = '"' then
      match _h : quotedRun? cs with
      | some (inner, rest) => inner :: pieces rest
      | none => (c :: cs.takeWhile inWord) :: pieces (cs.dropWhile inWord)
    else if Text.isBlank c then pieces cs
    else (c :: cs.takeWhile inWord) :: pieces (cs.dropWhile inWord)
termination_by cs => cs.length
decreasing_by
  · have := length_lt_of_quotedRun? _h
    simp only [List.length_cons]; omega
  · have := (List.dropWhile_suffix inWord (l := cs)).length_le
    simp only [List.length_cons]; omega
  · simp
  · have := (List.dropWhile_suffix inWord (l := cs)).length_le
    simp only [List.length_cons]; omega

/-- The terms of a query. -/
def read (cs : List Char) : List (List Char) := (pieces cs).map term

/-- The terms of a query, as strings. -/
def parse (query : String) : List String := (read query.toList).map String.ofList

end RowQuery.SearchTerms
