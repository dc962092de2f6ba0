import RowQuery.Output.Basic
import RowQuery.Text.Split

/-!
Orders. A sort term is a column and a direction; a sort key is a name that a client may ask for,
with the columns that it sorts by. Descending order reverses every one of them.
-/

namespace RowQuery

/-- A column to sort by. -/
structure OrderTerm where
  source : String
  descending : Bool
deriving DecidableEq, Repr

namespace OrderTerm

/-- Reads a name; a hyphen before it means descending order. -/
def parse (s : String) : OrderTerm :=
  match s.toList with
  | '-' :: cs => ⟨String.ofList cs, true⟩
  | _ => ⟨s, false⟩

/-- The term in text. -/
def text (t : OrderTerm) : String := if t.descending then "-" ++ t.source else t.source

end OrderTerm

/-- A name that a client may sort by. -/
structure SortKey where
  name : String
  sources : List String
deriving DecidableEq, Repr

namespace SortKey

/-- The key that sorts by the column of its own name. -/
def ofName (name : String) : SortKey := ⟨name, [name]⟩

/-- The sort terms of a key in one direction. -/
def terms (k : SortKey) (descending : Bool) : List OrderTerm := k.sources.map (⟨·, descending⟩)

/-- One key for each column that is no relation. -/
def ofSchema (s : Schema) : List SortKey :=
  (s.columns.filter fun c => c.kind.datatype?.isSome).map fun c => ofName c.name

/-- One key for each field that filters can know. -/
def ofOutputFields (fields : List OutputField) : List SortKey :=
  (fields.filter OutputField.isDetectable).map fun f => ofName f.accessor

/-- The key as JSON. -/
def toJson (k : SortKey) : Json :=
  .object [("name", .string k.name), ("source", .strings k.sources)]

end SortKey

end RowQuery
