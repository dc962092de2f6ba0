/-!
The parameters of a request: an ordered multimap. Names stand in the order in which they first
appear, and the values of a name in the order in which they are given.
-/

namespace RowQuery

/-- The parameters of a request, each name with its values. -/
structure Params where
  entries : List (String × List String)
deriving DecidableEq, Repr

namespace Params

/-- No parameters. -/
def empty : Params := ⟨[]⟩

/-- Appends a value to those of a name. -/
def pushEntry (name value : String) : List (String × List String) → List (String × List String)
  | [] => [(name, [value])]
  | (n, values) :: rest =>
    if n = name then (n, values ++ [value]) :: rest else (n, values) :: pushEntry name value rest

/-- The parameters with one more value. -/
def push (p : Params) (name value : String) : Params := ⟨pushEntry name value p.entries⟩

/-- The parameters that hold the given values, in their order. -/
def ofPairs (pairs : List (String × String)) : Params :=
  pairs.foldl (fun p (name, value) => p.push name value) empty

/-- The values of a name. -/
def getAll (p : Params) (name : String) : List String :=
  ((p.entries.find? fun (n, _) => n == name).map (·.2)).getD []

/-- The last value of a name. -/
def get? (p : Params) (name : String) : Option String := (p.getAll name).getLast?

/-- Whether the name is given. -/
def contains (p : Params) (name : String) : Bool := p.entries.any fun (n, _) => n == name

/-- The names. -/
def names (p : Params) : List String := p.entries.map (·.1)

/-- Every name with one of its values, in order. -/
def occurrences (p : Params) : List (String × String) :=
  p.entries.flatMap fun (name, values) => values.map (name, ·)

end Params

end RowQuery
