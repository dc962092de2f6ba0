import RowQuery.Config
import RowQuery.Numeric.Integer
import RowQuery.Output.Basic
import RowQuery.Params
import RowQuery.Text.Split

/-!
Choosing parts of rows. A path is a list of fragments with points between them: keys of objects,
numbers of array items, or a star for all children. What a path finds is kept under the path that
leads there; a path that leads nowhere finds null.
-/

namespace RowQuery

/-- Adds those of the items that are not in the list yet. -/
def addMissing (found : List String) (items : List String) : List String :=
  items.foldl (fun found item => if item ∈ found then found else found ++ [item]) found

/-- The different items of comma-separated lists, in the order in which they first appear. -/
def collectItems (lists : List String) : List String :=
  addMissing [] (lists.flatMap Text.itemStrings)

namespace Path

/-- The fragments of a path; empty ones do not count. -/
def fragments (path : String) : List String :=
  ((Text.splitOn '.' path.toList).filter fun f => !f.isEmpty).map String.ofList

/-- The path of the given fragments. -/
def join (fragments : List String) : String := ".".intercalate fragments

/-- The fragment that stands for all children. -/
def star : String := "*"

/-- What is reported for a path that leads nowhere from here on. -/
def unresolved (before rest : List String) : List (String × Json) :=
  [(join (before ++ rest), .null)]

/-- The child of a value that a fragment names. -/
def child? (fragment : String) : Json → Option Json
  | .object members => Json.get? fragment members
  | .array items => (Numeric.readNat64? fragment.toList).bind fun i => items[i]?
  | _ => none

/-- All children of a value with the fragments that name them; only arrays and objects have any. -/
def children? : Json → Option (List (String × Json))
  | .object members => some members
  | .array items => some (items.zipIdx.map fun (item, i) => (toString i, item))
  | _ => none

/-- Follows the rest of a path from a value to which the fragments `before` have led. -/
def follow (before : List String) : List String → Json → List (String × Json)
  | rest, .null => unresolved before rest
  | [], value => [(join before, value)]
  | fragment :: rest, value =>
    match if fragment = star then children? value else none with
    | some children => children.flatMap fun (name, c) => follow (before ++ [name]) rest c
    | none =>
      match child? fragment value with
      | some c => follow (before ++ [fragment]) rest c
      | none => unresolved before (fragment :: rest)

/-- Everything that a path finds in a value, each under the path that leads there. -/
def traverse (path : String) (value : Json) : List (String × Json) :=
  follow [] (fragments path) value

end Path

/-- The parts of rows that a client asks for. -/
structure Projection where
  paths : List String
deriving DecidableEq

namespace Projection

/-- The projection to the paths of comma-separated lists. -/
def ofLists (lists : List String) : Projection := ⟨collectItems lists⟩

/-- The projection that a request asks for; there is none without the parameter for it. -/
def ofParams? (params : Params) (config : Config) : Option Projection :=
  if params.contains config.fieldsParam then some (ofLists (params.getAll config.fieldsParam))
  else none

/-- The output fields that are asked for by name. -/
def select (p : Projection) (fields : List OutputField) : List OutputField :=
  fields.filter fun f => p.paths.contains f.name

/-- What the paths find in an object, under the paths that lead there. -/
def pluckObject (p : Projection) (value : Json) : Json :=
  .ofMembers (p.paths.flatMap fun path => Path.traverse path value)

mutual

/-- What the paths find in an object, or in each item of an array. Other values stay as they are,
and without paths every value does. -/
def pluck (p : Projection) : Json → Json
  | .array items => .array (pluckItems p items)
  | .object members => if p.paths.isEmpty then .object members else p.pluckObject (.object members)
  | value => value

/-- What the paths find in each of the values. -/
def pluckItems (p : Projection) : List Json → List Json
  | [] => []
  | value :: rest => pluck p value :: pluckItems p rest

end

end Projection

end RowQuery
