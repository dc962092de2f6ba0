import Mathlib.Data.List.Nodup
import Mathlib.Tactic.Lemma
import RowQuery.Proofs.Outcome
import RowQuery.Table.Test

/-!
The columns of a schema by name and by place. Where the names are different, the name of a column
leads back to it, so a comparison that names a column can only fail because of its operand
(`RowTest.ofLookup_blames`).
-/

namespace RowQuery

open Outcome

namespace Schema

/-- The columns have pairwise different names. -/
def Distinct (s : Schema) : Prop := (s.columns.map Column.name).Nodup

instance (s : Schema) : Decidable s.Distinct := inferInstanceAs (Decidable (List.Nodup _))

variable {s : Schema}

/-- The place of a name is that of a column of the name. -/
lemma exists_of_columnIndex? {name : String} {i : Nat} (h : s.columnIndex? name = some i) :
    ∃ c, s.columns[i]? = some c ∧ c.name = name := by
  obtain ⟨hi, hn, -⟩ := List.findIdx?_eq_some_iff_getElem.mp h
  exact ⟨s.columns[i], List.getElem?_eq_getElem hi, by simpa using hn⟩

/-- The name of a column leads to some place. -/
lemma exists_columnIndex? {c : Column} (h : c ∈ s.columns) : ∃ i, s.columnIndex? c.name = some i := by
  cases hi : s.columnIndex? c.name with
  | some i => exact ⟨i, rfl⟩
  | none =>
    have hne := List.findIdx?_eq_none_iff.mp hi c h
    simp at hne

/-- A name leads to no column iff no column has it. -/
lemma column?_eq_none_iff {name : String} :
    s.column? name = none ↔ name ∉ s.columns.map Column.name := by
  rw [column?, List.find?_eq_none, List.mem_map]
  simp

/-- A name leads to no place iff no column has it. -/
lemma columnIndex?_eq_none_iff {name : String} :
    s.columnIndex? name = none ↔ name ∉ s.columns.map Column.name := by
  rw [columnIndex?, List.findIdx?_eq_none_iff, List.mem_map]
  simp

/-- Columns of one name are one column. -/
lemma Distinct.eq_of_name (hs : s.Distinct) {c c' : Column} (h : c ∈ s.columns)
    (h' : c' ∈ s.columns) (hn : c.name = c'.name) : c = c' :=
  List.inj_on_of_nodup_map hs h h' hn

/-- The name of a column leads back to its place. -/
lemma Distinct.columnIndex? (hs : s.Distinct) {i : Nat} {c : Column} (h : s.columns[i]? = some c) :
    s.columnIndex? c.name = some i := by
  obtain ⟨j, hj⟩ := exists_columnIndex? (List.mem_of_getElem? h)
  obtain ⟨c', hc', hn⟩ := exists_of_columnIndex? hj
  have hi : (s.columns.map Column.name)[i]? = some c.name := by simp [h]
  have hj' : (s.columns.map Column.name)[j]? = some c.name := by simp [hc', hn]
  have hlt : i < (s.columns.map Column.name).length := (List.getElem?_eq_some_iff.mp hi).1
  have same : i = j := (List.getElem?_inj hlt hs).mp (hi.trans hj'.symm)
  rw [hj, same]

/-- Columns of one name stand at one place. -/
lemma Distinct.place_inj (hs : s.Distinct) {i j : Nat} {c c' : Column} (hi : s.columns[i]? = some c)
    (hj : s.columns[j]? = some c') (hn : c.name = c'.name) : i = j := by
  have h := hs.columnIndex? hi
  rw [hn, hs.columnIndex? hj] at h
  exact (Option.some.inj h).symm

/-- The name of a column leads back to it. -/
lemma Distinct.column? (hs : s.Distinct) {c : Column} (h : c ∈ s.columns) :
    s.column? c.name = some c := by
  cases hf : s.column? c.name with
  | none => simpa using List.find?_eq_none.mp hf c h
  | some c' =>
    have hn : c'.name = c.name := by simpa using List.find?_some hf
    rw [hs.eq_of_name (List.mem_of_find?_eq_some hf) h hn]

end Schema

/-- Coercion fails only for a value that is not of the column's kind. -/
lemma ColumnKind.coerce_error {kind : ColumnKind} {raw path : String} {e : StoreError}
    (h : kind.coerce raw path = .error e) : e = .typeMismatch path raw kind.expected := by
  rw [coerce] at h
  split at h <;> cases h
  rfl

lemma coerceFlag_error {raw path : String} {e : StoreError} (h : coerceFlag raw path = .error e) :
    e = .typeMismatch path raw .integerFlag := by
  rw [coerceFlag] at h
  split at h <;> cases h
  rfl

/-- What cannot be coerced is the fault of the operand. -/
lemma ColumnKind.coerce_blames {kind : ColumnKind} {raw path : String} {e : StoreError}
    (h : kind.coerce raw path = .error e) : e.blamesOperand = true := by
  rw [coerce_error h]
  rfl

lemma coerceFlag_blames {raw path : String} {e : StoreError}
    (h : coerceFlag raw path = .error e) : e.blamesOperand = true := by
  rw [coerceFlag_error h]
  rfl

namespace CellTest

lemma scalar_blames {l : Lookup} {e : StoreError} (h : scalar l = .error e) :
    e.blamesOperand = true := by
  rw [scalar] at h
  split at h
  · cases h
  · cases h; rfl

lemma list_blames {l : Lookup} {e : StoreError} (h : list l = .error e) :
    e.blamesOperand = true := by
  rw [list] at h
  split at h
  · cases h
  · cases h; rfl

/-- A comparison with one typed value fails only because of its operand. -/
lemma typedScalar_blames {kind : ColumnKind} {l : Lookup} {make : Value → CellTest} {e : StoreError}
    (h : (do return make (← kind.coerce (← scalar l) l.path)) = Except.error e) :
    e.blamesOperand = true := by
  rcases bind_error_iff.mp h with h | ⟨raw, -, h⟩
  · exact scalar_blames h
  · rcases bind_error_iff.mp h with h | ⟨_, _, h⟩
    · exact ColumnKind.coerce_blames h
    · cases h

/-- A comparison with a cell fails only because of its operand. -/
lemma ofLookup_blames {kind : ColumnKind} {l : Lookup} {e : StoreError}
    (h : ofLookup kind l = .error e) : e.blamesOperand = true := by
  rw [ofLookup] at h
  cases hc : l.comparison with
  | exact | less | atMost | greater | atLeast =>
    rw [hc] at h
    exact typedScalar_blames h
  | contains =>
    rw [hc] at h
    rcases bind_error_iff.mp h with h | ⟨_, _, h⟩
    · exact scalar_blames h
    · cases h
  | oneOf =>
    rw [hc] at h
    rcases bind_error_iff.mp h with h | ⟨raws, -, h⟩
    · exact list_blames h
    · rcases bind_error_iff.mp h with h | ⟨_, _, h⟩
      · obtain ⟨-, _, -, -, -, h⟩ := mapM_error_iff.mp h
        exact ColumnKind.coerce_blames h
      · cases h
  | range =>
    rw [hc] at h
    rcases bind_error_iff.mp h with h | ⟨raws, -, h⟩
    · exact list_blames h
    · split at h
      · rcases bind_error_iff.mp h with h | ⟨_, _, h⟩
        · exact ColumnKind.coerce_blames h
        · rcases bind_error_iff.mp h with h | ⟨_, _, h⟩
          · exact ColumnKind.coerce_blames h
          · cases h
      · cases h; rfl
  | isNull =>
    rw [hc] at h
    rcases bind_error_iff.mp h with h | ⟨raw, -, h⟩
    · exact scalar_blames h
    · rcases bind_error_iff.mp h with h | ⟨_, _, h⟩
      · exact coerceFlag_blames h
      · cases h

end CellTest

namespace RowTest

variable {s : Schema}

/-- A comparison cannot be made with a path that names no column. -/
lemma ofLookup_of_not_mem {path : String} (h : path ∉ s.columns.map Column.name)
    (comparison : Comparison) (operand : Operand) :
    ofLookup s ⟨path, comparison, operand⟩ = .error (.unknownColumn path) := by
  rw [ofLookup, Schema.columnIndex?_eq_none_iff.mpr h]

/-- Each comparison with a path that names a column is one with the cells at one place. -/
lemma exists_ofLookup_of_mem {path : String} (h : path ∈ s.columns.map Column.name) :
    ∃ (i : Nat) (kind : ColumnKind), ∀ comparison operand,
      ofLookup s ⟨path, comparison, operand⟩ =
        (CellTest.ofLookup kind ⟨path, comparison, operand⟩).map (cell i) := by
  obtain ⟨c, hc, rfl⟩ := List.mem_map.mp h
  obtain ⟨i, hi⟩ := Schema.exists_columnIndex? hc
  cases hf : s.column? c.name with
  | none => simpa using List.find?_eq_none.mp hf c hc
  | some found => exact ⟨i, found.kind, fun comparison operand => by rw [ofLookup, hi, hf]⟩

/-- A comparison that names a column is one with the cell at the place of the column. -/
lemma ofLookup_column (hs : s.Distinct) {i : Nat} {c : Column} (h : s.columns[i]? = some c)
    (comparison : Comparison) (operand : Operand) :
    ofLookup s ⟨c.name, comparison, operand⟩ =
      (CellTest.ofLookup c.kind ⟨c.name, comparison, operand⟩).map (cell i) := by
  rw [ofLookup]
  rw [hs.columnIndex? h, hs.column? (List.mem_of_getElem? h)]

/-- A comparison that names a column fails only because of its operand. -/
lemma ofLookup_blames (hs : s.Distinct) {c : Column} (h : c ∈ s.columns) {comparison : Comparison}
    {operand : Operand} {e : StoreError}
    (he : ofLookup s ⟨c.name, comparison, operand⟩ = .error e) : e.blamesOperand = true := by
  obtain ⟨i, hi⟩ := List.getElem?_of_mem h
  rw [ofLookup_column hs hi, map_error_iff] at he
  exact CellTest.ofLookup_blames he

end RowTest

end RowQuery
