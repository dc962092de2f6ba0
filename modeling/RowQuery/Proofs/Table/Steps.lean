import Mathlib.Tactic.Lemma
import RowQuery.Proofs.Table.Sorted

/-!
The steps of a view. A view that is narrowed keeps its table, its flags and its order and has more
steps, and its rows depend on the steps only through the rows that they admit
(`rows_addSteps_congr`).
-/

namespace RowQuery.View

/-- The view with more steps behind those it has. -/
def addSteps (v : View) (steps : List Step) : View := { v with steps := v.steps ++ steps }

variable {v : View}

@[simp]
lemma addSteps_table (v : View) (steps : List Step) : (v.addSteps steps).table = v.table := rfl

@[simp]
lemma addSteps_nil (v : View) : v.addSteps [] = v := by simp [addSteps]

@[simp]
lemma addSteps_addSteps (v : View) (xs ys : List Step) :
    (v.addSteps xs).addSteps ys = v.addSteps (xs ++ ys) := by
  simp [addSteps]

lemma distinct_addSteps (v : View) (steps : List Step) :
    DataSource.distinct (v.addSteps steps) = (DataSource.distinct v).addSteps steps := rfl

/-- Filtering adds the step that the condition means. -/
lemma filter_eq (v : View) (p : Predicate) :
    DataSource.filter v p =
      (RowTest.ofPredicate v.table.schema p).map fun test => v.addSteps [.keep test] := rfl

/-- Excluding adds the opposite step. -/
lemma exclude_eq (v : View) (p : Predicate) :
    DataSource.exclude v p =
      (RowTest.ofPredicate v.table.schema p).map fun test => v.addSteps [.drop test] := rfl

lemma admitted_addSteps (v : View) (steps : List Step) :
    (v.addSteps steps).admitted = v.admitted.filter fun row => steps.all (Step.admits row) := by
  simp only [admitted, addSteps, List.filter_filter, List.all_append]
  exact List.filter_congr fun row _ => Bool.and_comm _ _

/-- Whether a view shows the row at all, be it only behind an earlier one of the same key. -/
def shows (v : View) (row : Row) : Bool := !v.empty && v.steps.all (Step.admits row)

@[simp]
lemma shows_ofTable (t : Table) (row : Row) : (ofTable t).shows row = true := rfl

lemma shows_addSteps (v : View) (steps : List Step) (row : Row) :
    (v.addSteps steps).shows row = (v.shows row && steps.all (Step.admits row)) := by
  simp [shows, addSteps, Bool.and_assoc]

lemma shows_nothing (v : View) (row : Row) : (DataSource.nothing v).shows row = false := rfl

/-- The rows before they are ordered are those that the view shows, of each key the first one if the
view asks for this. -/
lemma selected_eq (v : View) : v.selected =
    if v.distinct then firstOfEach v.table.keyText [] (v.table.rows.filter v.shows)
    else v.table.rows.filter v.shows := by
  unfold selected admitted shows
  cases v.empty with
  | true =>
    have hnone : v.table.rows.filter (fun _ => false) = [] := List.filter_eq_nil_iff.mpr (by simp)
    simp [hnone, firstOfEach]
  | false => simp

/-- A view only shows rows of its table. -/
lemma mem_of_mem_selected {v : View} {row : Row} (h : row ∈ v.selected) : row ∈ v.table.rows := by
  rw [selected_eq] at h
  split at h
  · exact (List.mem_filter.mp (mem_of_mem_firstOfEach h)).1
  · exact (List.mem_filter.mp h).1

/-- Without an order the rows are shown as they are selected. -/
lemma rows_of_unordered (h : v.ordering = []) : v.rows = v.selected := by
  rw [rows, h]
  exact stableSort_eq_self (fun _ _ => rfl) _

/-- The view of a whole table shows the rows of the table. -/
lemma rows_ofTable (t : Table) : (ofTable t).rows = t.rows := by
  rw [rows_of_unordered rfl]
  exact List.filter_eq_self.mpr fun _ _ => rfl

/-- Steps that admit the same rows make views of the same rows. -/
lemma rows_addSteps_congr (v : View) {xs ys : List Step}
    (h : ∀ row, xs.all (Step.admits row) = ys.all (Step.admits row)) :
    (v.addSteps xs).rows = (v.addSteps ys).rows := by
  have same : (v.addSteps xs).admitted = (v.addSteps ys).admitted := by
    rw [admitted_addSteps, admitted_addSteps]
    exact List.filter_congr fun row _ => h row
  rw [rows, selected]
  rw [same]
  rfl

end RowQuery.View
