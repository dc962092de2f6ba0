import RowQuery.Proofs.Predicate.Truth
import RowQuery.Proofs.Table.Comparisons
import RowQuery.Proofs.Table.Loading

/-!
Conditions that compare one column. Where the columns have different names, such a condition is ready
as soon as its operand can be read, and it holds for a row iff the cell under the name of the column
passes the test (`says_lookup`).
-/

namespace RowQuery

open Outcome Predicate CellTest

variable {s : Schema} {row : Row}

/-- A cell stands in a row under the column of its place. -/
lemma Schema.mem_zip_iff {x : Column × Value} :
    x ∈ s.columns.zip row ↔ ∃ i : Nat, s.columns[i]? = some x.1 ∧ row[i]? = some x.2 := by
  rw [List.mem_iff_getElem?]
  exact exists_congr fun i => List.getElem?_zip_eq_some

/-- The cell under a column is one that the column admits. -/
lemma Schema.Admits.of_mem_zip (h : s.Admits row) {x : Column × Value}
    (hx : x ∈ s.columns.zip row) : x.1.kind.Admits x.2 :=
  (List.forall₂_iff_zip.mp h).2 hx

/-- Each column of a table has a cell in a row. -/
lemma Schema.Admits.exists_mem_zip (h : s.Admits row) {c : Column} (hc : c ∈ s.columns) :
    ∃ v, (c, v) ∈ s.columns.zip row := by
  obtain ⟨i, hi⟩ := List.getElem?_of_mem hc
  have hlt : i < row.length := by
    rw [← List.Forall₂.length_eq h]
    exact (List.getElem?_eq_some_iff.mp hi).1
  exact ⟨row[i], Schema.mem_zip_iff.mpr ⟨i, hi, List.getElem?_eq_getElem hlt⟩⟩

/-- The cell under a column is told by the name of the column. -/
lemma Schema.Distinct.eq_of_mem_zip (hs : s.Distinct) {x y : Column × Value}
    (hx : x ∈ s.columns.zip row) (hy : y ∈ s.columns.zip row) (hn : x.1.name = y.1.name) : x = y := by
  obtain ⟨i, hi, hxv⟩ := Schema.mem_zip_iff.mp hx
  obtain ⟨j, hj, hyv⟩ := Schema.mem_zip_iff.mp hy
  obtain rfl := hs.place_inj hi hj hn
  rw [hi] at hj
  rw [hxv] at hyv
  exact Prod.ext (Option.some.inj hj) (Option.some.inj hyv)

namespace Predicate

variable {c : Column} {comparison : Comparison} {operand : Operand} {test : CellTest}

lemma truth_lookup (hs : s.Distinct) {i : Nat} (hc : s.columns[i]? = some c)
    (hm : Made c.kind comparison operand test) :
    truth s (.lookup ⟨c.name, comparison, operand⟩) =
      .ok fun row => (row[i]?).any test.holds := by
  rw [truth, RowTest.ofPredicate, RowTest.ofLookup_column hs hc, ofLookup_ok_iff.mpr hm]
  rfl

/-- A condition on a column is ready if its operand can be read. -/
lemma ready_lookup (hs : s.Distinct) (hc : c ∈ s.columns)
    (hm : Made c.kind comparison operand test) :
    Ready s (.lookup ⟨c.name, comparison, operand⟩) := by
  obtain ⟨i, hi⟩ := List.getElem?_of_mem hc
  exact ⟨_, truth_lookup hs hi hm⟩

/-- A condition on a column holds for a row iff the cell under the column passes the test. -/
lemma says_lookup (hs : s.Distinct) (hc : c ∈ s.columns)
    (hm : Made c.kind comparison operand test) :
    Says s (.lookup ⟨c.name, comparison, operand⟩) row ↔
      ∃ x ∈ s.columns.zip row, x.1 = c ∧ test.holds x.2 = true := by
  obtain ⟨i, hi⟩ := List.getElem?_of_mem hc
  rw [Says, truth_lookup hs hi hm]
  constructor
  · rintro ⟨_, h, hrow⟩
    cases h
    obtain ⟨v, hv, ht⟩ := (Option.any_eq_true _ _).mp hrow
    exact ⟨(c, v), Schema.mem_zip_iff.mpr ⟨i, hi, hv⟩, rfl, ht⟩
  · rintro ⟨x, hx, rfl, ht⟩
    obtain ⟨j, hj, hv⟩ := Schema.mem_zip_iff.mp hx
    refine ⟨_, rfl, ?_⟩
    rw [hs.place_inj hi hj rfl, hv]
    exact ht

end Predicate

end RowQuery
