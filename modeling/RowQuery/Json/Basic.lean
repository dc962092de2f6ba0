import RowQuery.Numeric.Binary64

/-!
JSON values. Integers and floating-point numbers are kept apart. An object that is read, and a row,
has its members in ascending order of their keys, each key once; `Json.insert` keeps them so. A
record is written with its members in the order in which it declares them.
-/

namespace RowQuery

open Numeric (Binary64)

/-- A JSON value. -/
inductive Json where
  | null
  | bool (b : Bool)
  | integer (n : Int)
  | float (x : Binary64)
  | string (s : String)
  | array (items : List Json)
  | object (members : List (String × Json))
deriving Inhabited

namespace Json

/-- Puts a member into an ascending list of members; a member of the same key gives way. -/
def insert {α : Type} (key : String) (value : α) : List (String × α) → List (String × α)
  | [] => [(key, value)]
  | (k, v) :: rest =>
    if key < k then (key, value) :: (k, v) :: rest
    else if key = k then (key, value) :: rest
    else (k, v) :: insert key value rest

/-- The members in ascending order; of two with one key the later one stays. -/
def sortMembers {α : Type} (members : List (String × α)) : List (String × α) :=
  members.foldl (fun sorted (key, value) => insert key value sorted) []

/-- The object with the given members; of two with one key the later one stays. -/
def ofMembers (members : List (String × Json)) : Json := object (sortMembers members)

/-- The value under a key of an object's members. -/
def get? {α : Type} (key : String) (members : List (String × α)) : Option α :=
  (members.find? (fun (k, _) => k == key)).map (·.2)

/-- A number as JSON: what is not finite has no JSON form and becomes `null`. -/
def ofBinary64 (x : Binary64) : Json := if x.isFinite then float x else null

/-- A list of strings as JSON. -/
def strings (texts : List String) : Json := array (texts.map string)

end Json

end RowQuery
