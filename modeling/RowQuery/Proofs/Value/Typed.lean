import RowQuery.Proofs.Numeric.Rounding
import RowQuery.Proofs.Value.Order
import RowQuery.Value.Coercion

/-!
Reading gives values of the column's type. Whatever an operand or a cell is written as, what is read
from it is a value that its column admits, so values that are compared are of one type. JSON numbers
are bounded: documents hold finite numbers, and integers of at most 64 bits.
-/

namespace RowQuery

/-- A text is read as a value of the type of the column. -/
lemma ColumnKind.read?_is {kind : ColumnKind} {raw : String} {v : Value}
    (h : kind.read? raw = some v) : v.Is kind.expected := by
  cases kind with
  | char | text =>
    cases h
    exact .string raw
  | integer | autoId | relation =>
    obtain ⟨n, -, rfl⟩ := Option.map_eq_some_iff.mp h
    exact .integer n
  | float | decimal =>
    obtain ⟨x, hx, rfl⟩ := Option.map_eq_some_iff.mp h
    exact .number x (Option.filter_eq_some_iff.mp hx).2
  | boolean | nullBoolean =>
    obtain ⟨b, -, rfl⟩ := Option.map_eq_some_iff.mp h
    exact .boolean b
  | date =>
    obtain ⟨d, -, rfl⟩ := Option.map_eq_some_iff.mp h
    exact .date d
  | dateTime =>
    obtain ⟨t, -, rfl⟩ := Option.map_eq_some_iff.mp h
    exact .datetime t

/-- The operand of a comparison is a value of the type of the column. -/
lemma ColumnKind.coerce_ok_iff {kind : ColumnKind} {raw path : String} {v : Value} :
    kind.coerce raw path = .ok v ↔ kind.read? raw = some v := by
  rw [coerce]
  split <;> simp [*]

/-- A number as a document holds it: finite if it is floating-point, of at most 64 bits if it is an
integer. -/
def Json.Bounded : Json → Prop
  | .float x => x.isFinite = true
  | .integer n => Numeric.minInt64 ≤ n ∧ n ≤ Numeric.maxNat64
  | _ => True

instance : ∀ json : Json, Decidable json.Bounded
  | .float x => inferInstanceAs (Decidable (x.isFinite = true))
  | .integer _ => inferInstanceAs (Decidable (_ ∧ _))
  | .null | .bool _ | .string _ | .array _ | .object _ => .isTrue trivial

namespace Value

/-- A bounded JSON value that is no string is read as a value that the column admits. -/
lemma ofPlainJson?_admits {json : Json} {kind : ColumnKind} {v : Value} (hb : json.Bounded)
    (h : ofPlainJson? json kind = some v) : kind.Admits v := by
  cases json with
  | null =>
    cases h
    exact .inl rfl
  | bool b =>
    cases kind with
    | boolean | nullBoolean =>
      cases h
      exact .inr (.boolean b)
    | char | text =>
      cases h
      exact .inr (.string _)
    | integer | autoId | float | decimal | date | dateTime | relation => cases h
  | integer n =>
    -- An integer of 64 bits is far from where rounding gives an infinity.
    have hf : (Numeric.Binary64.ofInt n).isFinite = true := by
      refine Numeric.Binary64.ofInt_isFinite (k := 64) (by omega) ?_
      have := hb.1
      have := hb.2
      simp only [Numeric.minInt64, Numeric.maxNat64] at *
      omega
    cases kind with
    | integer | autoId | relation =>
      obtain ⟨-, hv⟩ := Option.ite_none_right_eq_some.mp h
      cases hv
      exact .inr (.integer n)
    | float | decimal =>
      cases h
      exact .inr (.number _ hf)
    | char | text =>
      cases h
      exact .inr (.string _)
    | boolean | nullBoolean | date | dateTime => cases h
  | float x =>
    cases kind with
    | float | decimal =>
      cases h
      exact .inr (.number x hb)
    | char | text =>
      cases h
      exact .inr (.string _)
    | integer | autoId | boolean | nullBoolean | date | dateTime | relation => cases h
  | string s => cases h
  | array items => cases h
  | object members => cases h

/-- A bounded JSON value is read as a value that the column admits. -/
lemma ofJson_admits {json : Json} {column : Column} {v : Value} (hb : json.Bounded)
    (h : ofJson json column = .ok v) : column.kind.Admits v := by
  unfold ofJson at h
  split at h
  · exact .inr (ColumnKind.read?_is (ColumnKind.coerce_ok_iff.mp h))
  · split at h
    · rename_i value hv
      cases h
      exact ofPlainJson?_admits hb hv
    · cases h

end Value

end RowQuery
