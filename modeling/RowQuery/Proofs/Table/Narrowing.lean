import RowQuery.CallLog
import RowQuery.Proofs.Predicate.Truth
import RowQuery.Proofs.Table.Loading
import RowQuery.Proofs.Table.RowOrder
import RowQuery.Proofs.Table.Steps

/-!
Views that are asked for one thing after the other. A view only takes down what it is asked for: it drops
rows first, then those of a key that it has shown, and then it sorts, whatever came first in the calls.
Still a condition narrows a view to those of its rows that satisfy it, without moving them
(`narrowed_rows`), if two things hold of the view: where it shows each key once, the condition does not
tell rows of one key apart (`AnswersKeys`), and its order is one of the rows that it shows
(`Consistent`), as it is wherever cells are values of their columns.
-/

namespace RowQuery

open Outcome Predicate Std

section Calls

variable {σ : Type} [DataSource σ]

/-- What a call makes of a view. -/
def Call.apply (view : σ) : Call → Except StoreError σ
  | filter p => DataSource.filter view p
  | exclude p => DataSource.exclude view p
  | distinct => .ok (DataSource.distinct view)
  | nothing => .ok (DataSource.nothing view)
  | orderBy terms => DataSource.orderBy view terms

/-- What calls make of a view, one after the other. -/
def Call.applyAll (calls : List Call) (view : σ) : Except StoreError σ :=
  calls.foldlM Call.apply view

end Calls

namespace View

variable {t : Table} {v w : View}

/-- A call makes a view of the same table. -/
lemma apply_table {call : Call} (h : call.apply v = .ok w) : w.table = v.table := by
  cases call with
  | filter p =>
    obtain ⟨test, -, rfl⟩ := map_ok_iff.mp h
    rfl
  | exclude p =>
    obtain ⟨test, -, rfl⟩ := map_ok_iff.mp h
    rfl
  | distinct =>
    cases h
    rfl
  | nothing =>
    cases h
    rfl
  | orderBy terms =>
    obtain ⟨cs, -, rfl⟩ := map_ok_iff.mp h
    rfl

/-- Whatever a table is asked for, its views are views of it. -/
lemma applyAll_table {calls : List Call} (h : Call.applyAll calls v = .ok w) : w.table = v.table := by
  rw [Call.applyAll] at h
  induction calls generalizing v with
  | nil =>
    cases h
    rfl
  | cons call calls ih =>
    rw [List.foldlM_cons] at h
    obtain ⟨u, hu, h⟩ := bind_ok_iff.mp h
    exact (ih h).trans (apply_table hu)

/-- A view that shows each primary key once is asked for what the rows of a key have in common. -/
def AnswersKeys (v : View) (answer : Row → Bool) : Prop :=
  v.distinct = true → ∀ a ∈ v.table.rows, ∀ b ∈ v.table.rows, v.shows a = true → v.shows b = true →
    v.table.keyText a = v.table.keyText b → answer a = answer b

instance (v : View) (answer : Row → Bool) : Decidable (v.AnswersKeys answer) :=
  inferInstanceAs (Decidable (_ → _))

/-- The order of a view is one of the rows that it shows. -/
def Consistent (v : View) : Prop :=
  TransCmp fun a b : {row // row ∈ v.rows} => SortColumn.compareAll v.ordering a b

lemma mem_rows {row : Row} : row ∈ v.rows ↔ row ∈ v.selected :=
  (stableSort_perm _ _).mem_iff

/-- Rows whose cells are values of their columns are ordered by any columns. -/
lemma consistent_of_admits (h : ∀ row ∈ v.table.rows, v.table.schema.Admits row) : v.Consistent := by
  have hc := SortColumn.compareAll_trans v.table.schema v.ordering
  let typed (a : {row // row ∈ v.rows}) : {row // v.table.schema.Admits row} :=
    ⟨a, h a (mem_of_mem_selected (mem_rows.mp a.2))⟩
  exact {
    eq_swap := fun {a b} => hc.eq_swap (a := typed a) (b := typed b)
    isLE_trans := fun {a b c} => hc.isLE_trans (a := typed a) (b := typed b) (c := typed c) }

/-- One more step leaves the rows that it admits, of those that were to be sorted. -/
lemma selected_addSteps {st : Step} (hk : v.AnswersKeys fun row => st.admits row) :
    (v.addSteps [st]).selected = v.selected.filter fun row => st.admits row := by
  have hshows : v.table.rows.filter (v.addSteps [st]).shows =
      (v.table.rows.filter v.shows).filter fun row => st.admits row := by
    rw [List.filter_filter]
    refine List.filter_congr fun row _ => ?_
    rw [shows_addSteps, List.all_cons, List.all_nil, Bool.and_true, Bool.and_comm]
  rw [selected_eq, selected_eq, addSteps_table, hshows]
  show (if v.distinct then _ else _) = _
  cases hd : v.distinct with
  | false => rfl
  | true =>
    refine (filter_firstOfEach (fun a ha b hb hkey => ?_) []).symm
    obtain ⟨ha, hashown⟩ := List.mem_filter.mp ha
    obtain ⟨hb, hbshown⟩ := List.mem_filter.mp hb
    exact hk hd a ha b hb hashown hbshown hkey

/-- One more step leaves the rows that it admits, where they stood. -/
lemma rows_addSteps (st : Step) (hk : v.AnswersKeys fun row => st.admits row) (ho : v.Consistent) :
    (v.addSteps [st]).rows = v.rows.filter fun row => st.admits row := by
  rw [rows, selected_addSteps hk]
  exact stableSort_filter_on ho (fun row hrow => mem_rows.mpr hrow) _

/-- Filtering a view shows exactly those of its rows that satisfy the condition, and excluding shows
exactly the other ones, in the order of the view: if the view orders the rows that it shows, and does not
show one row for others that share its key and differ in whether they satisfy the condition. -/
theorem narrowed_rows {calls : List Call} (hv : Call.applyAll calls (ofTable t) = .ok v) {p : Predicate}
    {answer : Row → Bool} (hp : p.truth t.schema = .ok answer) (hk : v.AnswersKeys answer)
    (ho : v.Consistent) :
    ∃ kept dropped, DataSource.filter v p = .ok kept ∧ DataSource.exclude v p = .ok dropped ∧
      kept.rows = v.rows.filter answer ∧ dropped.rows = v.rows.filter fun row => !answer row := by
  have htable : v.table = t := applyAll_table hv
  rw [← htable] at hp
  obtain ⟨test, htest, rfl⟩ := map_ok_iff.mp hp
  have hnot : v.AnswersKeys fun row => !test.holds row := by
    intro hd a ha b hb hashown hbshown hkey
    exact congrArg Bool.not (hk hd a ha b hb hashown hbshown hkey)
  refine ⟨v.addSteps [.keep test], v.addSteps [.drop test], ?_, ?_, ?_, ?_⟩
  · rw [filter_eq, htest]
    rfl
  · rw [exclude_eq, htest]
    rfl
  · exact rows_addSteps (.keep test) hk ho
  · exact rows_addSteps (.drop test) hnot ho

end View

/-- A table of two rows that share their primary key. -/
def Table.spellings : Table :=
  ⟨Dataset.cities.schema, [[.int 1, .string "Rome"], [.int 1, .string "Roma"]]⟩

/-- A table that holds a text among numbers. -/
def Table.mixed : Table :=
  ⟨⟨"numbers", "number", [⟨"number", .integer⟩]⟩, [[.int 2], [.string "x"], [.int 1]]⟩

namespace View

/-- A condition on the key narrows the view that shows the first spelling. -/
theorem spellings_narrowed_rows : ∃ v answer,
    Call.applyAll [.orderBy [⟨"name", false⟩], .distinct] (ofTable Table.spellings) = .ok v ∧
    truth Table.spellings.schema (.lookup ⟨"id", .atMost, .scalar "1"⟩) = .ok answer ∧
    v.AnswersKeys answer ∧ v.Consistent ∧
    ∃ kept dropped,
      DataSource.filter v (.lookup ⟨"id", .atMost, .scalar "1"⟩) = .ok kept ∧
      DataSource.exclude v (.lookup ⟨"id", .atMost, .scalar "1"⟩) = .ok dropped ∧
      kept.rows = v.rows.filter answer ∧ dropped.rows = v.rows.filter fun row => !answer row := by
  let v : View := ⟨Table.spellings, [], true, false, [⟨1, false⟩]⟩
  let answer (row : Row) : Bool := RowTest.holds row (.cell 0 (.atMost (.int 1)))
  have hv : Call.applyAll [.orderBy [⟨"name", false⟩], .distinct] (ofTable Table.spellings) = .ok v :=
    rfl
  have hp : truth Table.spellings.schema (.lookup ⟨"id", .atMost, .scalar "1"⟩) = .ok answer := rfl
  have hk : v.AnswersKeys answer := by decide
  have ho : v.Consistent := by
    refine consistent_of_admits fun row hrow => ?_
    have hrow : row = [.int 1, .string "Rome"] ∨ row = [.int 1, .string "Roma"] := by
      simpa [v, Table.spellings] using hrow
    obtain rfl | rfl := hrow
    · exact .cons (.inr (.integer 1)) (.cons (.inr (.string _)) .nil)
    · exact .cons (.inr (.integer 1)) (.cons (.inr (.string _)) .nil)
  exact ⟨v, answer, hv, hp, hk, ho, narrowed_rows hv hp hk ho⟩

/-- A view that shows each key once may show a row only when it is narrowed, and a view whose order is none
may move its rows: filtering does not show a sublist of the view. -/
theorem filter_not_narrowing :
    (Table.ofRows Table.spellings.schema Table.spellings.rows = .ok Table.spellings ∧
      ∃ v answer kept, Call.applyAll [.distinct] (ofTable Table.spellings) = .ok v ∧
        truth Table.spellings.schema (.lookup ⟨"name", .exact, .scalar "Roma"⟩) = .ok answer ∧
        DataSource.filter v (.lookup ⟨"name", .exact, .scalar "Roma"⟩) = .ok kept ∧
        v.rows = [[.int 1, .string "Rome"]] ∧ kept.rows = [[.int 1, .string "Roma"]] ∧
        kept.rows ≠ v.rows.filter answer) ∧
    Table.ofRows Table.mixed.schema Table.mixed.rows = .ok Table.mixed ∧
      ∃ v answer kept, Call.applyAll [.orderBy [⟨"number", false⟩]] (ofTable Table.mixed) = .ok v ∧
        truth Table.mixed.schema (.lookup ⟨"number", .oneOf, .list ["1", "2"]⟩) = .ok answer ∧
        DataSource.filter v (.lookup ⟨"number", .oneOf, .list ["1", "2"]⟩) = .ok kept ∧
        v.rows = [[.int 2], [.string "x"], [.int 1]] ∧ kept.rows = [[.int 1], [.int 2]] ∧
        kept.rows ≠ v.rows.filter answer :=
  ⟨⟨rfl, _, _, _, rfl, rfl, rfl, by decide, by decide, by decide⟩,
    rfl, _, _, _, rfl, rfl, rfl, by decide, by decide, by decide⟩

end View

end RowQuery
