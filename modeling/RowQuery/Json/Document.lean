import RowQuery.Json.Basic
import RowQuery.Numeric.Integer

/-!
JSON documents as they are written. Unlike a value, a document keeps repeated keys, numbers that are
too large and strings with half a surrogate pair, because they are faults only where somebody asks
for the value: a member that no one reads may hold them. `Document.value?` turns a document into a
value, and `Document.fields?` takes a record apart.
-/

namespace RowQuery.Json

-- Powers of natural numbers are the core library's own, whatever is imported besides.
attribute [local instance (high)] instPowNat

open Numeric (Binary64)

/-- A JSON document. A number without value is out of range, a string without value holds half a
surrogate pair. -/
inductive Document where
  | null
  | bool (b : Bool)
  | integer (n : Int)
  | float (x : Option Binary64)
  | string (s : Option String)
  | array (items : List Document)
  | object (members : List (Option String × Document))
deriving Inhabited

/-- A number literal, taken apart. -/
structure NumberText where
  negative : Bool
  whole : List Char
  fraction : Option (List Char)
  power : Int

namespace NumberText

/-- Appends digits to a significand of 64 bits as long as it does not overflow; the digits left over
come second. -/
def accumulate (significand : Nat) : List Char → Nat × List Char
  | [] => (significand, [])
  | d :: ds =>
    let next := 10 * significand + Numeric.digitValue d
    if next ≤ Numeric.maxNat64 then accumulate next ds else (significand, d :: ds)

/-- Scales a magnitude by a power of ten with one rounding. Powers beyond the table are left to
`fuel` divisions by the last entry, two of which leave nothing of any significand. -/
def scaleByTen? (fuel : Nat) (rank : Nat) (power : Int) : Option Nat :=
  let table (k : Nat) : Nat :=
    match Binary64.ofQuotient false (10 ^ k) 1 with
    | .finite _ r _ => r
    | _ => 0
  let rank? : Binary64 → Option Nat
    | .finite _ r _ => some r
    | _ => none
  if power.natAbs ≤ 308 then
    if 0 ≤ power then rank? (Binary64.mulRanks rank (table power.natAbs))
    else rank? (Binary64.divRanks rank (table power.natAbs))
  else if rank = 0 then some 0
  else if 0 ≤ power then none
  else
    match fuel with
    | 0 => some 0
    | fuel + 1 =>
      (rank? (Binary64.divRanks rank (table 308))).bind (scaleByTen? fuel · (power + 308))

/-- The floating-point value of a literal: a significand of 64 bits, rounded, then scaled by the
power of ten that remains. Whole digits that do not fit count for the power, further ones do not
count. -/
def float? (t : NumberText) : Option Binary64 :=
  let (significand, left) := accumulate 0 t.whole
  let (significand, kept) := match t.fraction with
    | none => (significand, 0)
    | some ds =>
      let (s, ignored) := accumulate significand ds
      (s, ds.length - ignored.length)
  match Binary64.ofInt significand with
  | .finite _ rank _ =>
    (scaleByTen? 3 rank (t.power + left.length - kept)).map (Binary64.ofRank t.negative)
  | _ => none

end NumberText

namespace Document

/-- The document of a number literal: an integer if it is written as one and fits 64 bits. A
negative zero is a floating-point number. -/
def ofNumber (t : NumberText) (written : Bool) : Document :=
  let n := Numeric.digitsValue 0 t.whole
  if written then
    if !t.negative && n ≤ Numeric.maxNat64 then integer n
    else if t.negative && n ≠ 0 && n ≤ 2 ^ (63 : Nat) then integer (-n)
    else float t.float?
  else float t.float?

/-- The document that a value is written as. -/
def ofValue : Json → Document
  | .null => null
  | .bool b => bool b
  | .integer n => integer n
  | .float x => float (some x)
  | .string s => string (some s)
  | .array items => array (ofItems items)
  | .object members => object (ofMembers members)
where
  /-- The documents of a list of values. -/
  ofItems : List Json → List Document
    | [] => []
    | v :: rest => ofValue v :: ofItems rest
  /-- The documents of an object's members. -/
  ofMembers : List (String × Json) → List (Option String × Document)
    | [] => []
    | (k, v) :: rest => (some k, ofValue v) :: ofMembers rest

mutual

/-- The value of a document whose brackets nest at most `depth` deep. -/
def value? (depth : Nat) : Document → Option Json
  | null => some .null
  | bool b => some (.bool b)
  | integer n => some (.integer n)
  | float x => x.map .float
  | string s => s.map .string
  | array items =>
    match depth with
    | 0 => none
    | depth + 1 => (values? depth items).map .array
  | object members =>
    match depth with
    | 0 => none
    | depth + 1 => (members? depth members).map .ofMembers

/-- The values of a list of documents. -/
def values? (depth : Nat) : List Document → Option (List Json)
  | [] => some []
  | d :: rest => do
    let value ← value? depth d
    let values ← values? depth rest
    return value :: values

/-- The members of an object, as written. -/
def members? (depth : Nat) : List (Option String × Document) → Option (List (String × Json))
  | [] => some []
  | (k, d) :: rest => do
    let key ← k
    let value ← value? depth d
    let members ← members? depth rest
    return (key, value) :: members

end

/-- The deepest nesting of brackets that a document may have where it is read. -/
def maxDepth : Nat := 127

/-- The documents under the given names of a record, which is written as an object or as the array
of its members. An object may have other members as well but names none twice; an array may be
short. -/
def fields? (names : List String) : Document → Option (List (Option Document))
  | object members => do
    let named ← members.mapM fun (k, d) => k.map fun key => (key, d)
    names.mapM fun name =>
      match named.filter (fun (k, _) => k == name) with
      | [] => some none
      | [(_, d)] => some (some d)
      | _ => none
  | array items =>
    if names.length < items.length then none
    else some (items.map some ++ List.replicate (names.length - items.length) none)
  | _ => none

/-- The string that a document writes. -/
def string? : Document → Option String
  | string s => s
  | _ => none

/-- The truth value that a document writes. -/
def bool? : Document → Option Bool
  | bool b => some b
  | _ => none

/-- The items of an array. -/
def items? : Document → Option (List Document)
  | array items => some items
  | _ => none

/-- The list of strings that a document writes. -/
def strings? (d : Document) : Option (List String) := do (← d.items?).mapM string?

/-- The word that a document names: a string, or an object whose only key is the word and whose
value is null. -/
def word? : Document → Option String
  | string s => s
  | object [(key, null)] => key
  | _ => none

/-- What a document writes, or nothing if it is absent or null. -/
def optional? {α : Type} (read : Document → Option α) : Option Document → Option (Option α)
  | none => some none
  | some null => some none
  | some d => (read d).map some

/-- What a document writes, or the default if it is absent. -/
def orElse? {α : Type} (default : α) (read : Document → Option α) : Option Document → Option α
  | none => some default
  | some d => read d

end Document

end RowQuery.Json
