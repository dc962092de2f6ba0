import RowQuery.Output.Basic
import RowQuery.Predicate
import RowQuery.Text.Quoted

/-!
Fields that a client may filter by. A field either compares a column or builds conditions of its
own, and may change the values of an operand before they are compared. Functions have an identity,
a number: two fields are the same field only if their functions have the same identity.
-/

namespace RowQuery

/-- A function that changes the values of operands. -/
structure Converter where
  identity : Nat
  convert : String → String

/-- A function that builds the condition of a field from its name, a comparison and an operand. -/
structure PredicateBuilder where
  identity : Nat
  build : String → Comparison → Operand → Except FilterError Predicate

/-- Where the condition of a field comes from. -/
inductive FieldSource where
  | path (path : String)
  | custom (builder : PredicateBuilder)

/-- A field that a client may filter by. -/
structure Field where
  name : String
  source : FieldSource
  converter : Option Converter
  datatype : Datatype
  /-- Whether free-text search passes over the field. -/
  advanced : Bool

namespace Field

/-- The field that compares the column of its own name. -/
def ofColumn (name : String) (datatype : Datatype) : Field :=
  ⟨name, .path name, none, datatype, false⟩

/-- The column that the field compares. -/
def path? (f : Field) : Option String :=
  match f.source with
  | .path path => some path
  | .custom _ => none

/-- The operand with its values changed by the converter. -/
def convert (f : Field) (operand : Operand) : Operand :=
  match f.converter with
  | some c => operand.map c.convert
  | none => operand

/-- The condition that compares the field with an operand. -/
def predicate (f : Field) (comparison : Comparison) (operand : Operand) :
    Except FilterError Predicate :=
  match f.source with
  | .path path => .ok (.lookup ⟨path, comparison, f.convert operand⟩)
  | .custom builder => builder.build f.name comparison (f.convert operand)

/-- One field for each column that is no relation. -/
def ofSchema (s : Schema) : List Field :=
  s.columns.filterMap fun c => c.kind.datatype?.map fun t => ofColumn c.name t

/-- One field for each output field that filters can know, named for the column that it shows. -/
def ofOutputFields (fields : List OutputField) : List Field :=
  (fields.filter OutputField.isDetectable).map fun f => ofColumn f.accessor f.kind.datatype

/-- The field as it is dumped for debugging; functions are not shown. -/
def dump (f : Field) : String :=
  let source := match f.source with
    | .path path => "Path(" ++ Text.quoted path ++ ")"
    | .custom _ => "Custom(..)"
  "FilterableField \x7b name: " ++ Text.quoted f.name ++ ", source: " ++ source
    ++ ", datatype: " ++ f.datatype.dumped ++ ", advanced: " ++ toString f.advanced ++ " \x7d"

end Field

end RowQuery
