import RowQuery.Proofs.Sorting.OwnKeys
import RowQuery.Proofs.Table.UniqueKeys

/-!
Stable pagination. Whatever a request asks for, it is ordered by the primary key behind everything else
(`orders_by_key`). So where the keys are unique the rows of a request come in one order, whatever
order the table holds them in, and pages that are cut out of them neither overlap nor miss a row:
`answer_perm`.
-/

namespace RowQuery

open Outcome

namespace Pipeline

variable {d : Dataset} {t : Table} {v w : View}

/-- A view that went through the pipeline is one of the same table, ordered by the primary key among
others. -/
lemma orders_by_key (p : Pipeline) {r : Request} (h : p.apply r v = .ok w) :
    w.table = v.table ∧ ∃ c ∈ w.ordering, c.index = w.table.keyIndex := by
  obtain ⟨v₁, hv₁, h⟩ := bind_ok_iff.mp h
  obtain ⟨v₂, hv₂, h⟩ := bind_ok_iff.mp h
  obtain ⟨ts, hts, h⟩ := bind_ok_iff.mp h
  obtain ⟨asked, -, rfl⟩ := map_ok_iff.mp hts
  obtain ⟨cs, hcs, rfl⟩ := Sorting.apply_ok_iff.mp h
  obtain ⟨term, hterm, hkey⟩ := Sorting.exists_sortsByKey (DataSource.primaryKey v₂) asked
  obtain ⟨c, hc, hindex, -⟩ := exists_of_mem_left hcs term hterm
  refine ⟨(applySearch_table p hv₂).trans (applyFilter_table p hv₁), c, hc, ?_⟩
  rw [Sorting.sortName_of_sortsByKey hkey] at hindex
  rw [Table.keyIndex, hindex]
  rfl

/-- Where every row has a primary key and no two keys are equal, a request fails with one error or
shows one list of rows, whatever order the rows are stored in. The numbers of the dataset are bounded
if it is read from a text (`Dataset.parse_bounded`). -/
theorem answer_perm (hb : d.Bounded) (ht : d.table = .ok t) (hk : t.UniqueKeys)
    {rows : List (List (String × Json))} (hp : d.rows.Perm rows) (p : Pipeline) (r : Request) :
    ∃ t', { d with rows }.table = .ok t' ∧
      (p.apply r (View.ofTable t)).map View.rows = (p.apply r (View.ofTable t')).map View.rows := by
  obtain ⟨t', ht', hschema, hperm⟩ := Dataset.table_perm ht hp
  refine ⟨t', ht', ?_⟩
  cases hv : p.apply r (View.ofTable t) with
  | error e =>
    have h := (p.apply_twins r (View.ofTable_twins hschema.symm)).error_iff.mp hv
    rw [h]
  | ok v =>
    have h := p.apply_twins r (View.ofTable_twins hschema.symm)
    rw [hv] at h
    obtain ⟨w, hw, htwins⟩ := h.of_ok
    obtain ⟨hvt, hc⟩ := orders_by_key p hv
    obtain ⟨hwt, -⟩ := orders_by_key p hw
    have hadmits := Dataset.table_admits ht hb
    rw [hw]
    refine congrArg Except.ok (htwins.rows_eq ?_ ?_ ?_ hc)
    · rw [hvt, hwt]
      exact hperm
    · rw [hvt]
      exact hk
    · rw [hvt]
      exact hadmits

/-- The cities in the descending order of their names. -/
def citiesByName : Request where
  params := .empty
  output := Dataset.cities.output
  defaultOrdering := some ["-name"]

/-- The cities are listed by their names in one order, in whichever order they are stored. -/
theorem citiesByName_answer_perm :
    Dataset.cities.Bounded ∧ ∃ t, Dataset.cities.table = .ok t ∧ t.UniqueKeys ∧
      Dataset.cities.rows.Perm Dataset.cities.rows.reverse ∧
      ∃ t', { Dataset.cities with rows := Dataset.cities.rows.reverse }.table = .ok t' ∧
        (apply ⟨.usual, none⟩ citiesByName (View.ofTable t)).map View.rows =
          (apply ⟨.usual, none⟩ citiesByName (View.ofTable t')).map View.rows := by
  have hk : Table.UniqueKeys
      ⟨Dataset.cities.schema, [[.int 2, .string "Rome"], [.int 1, .null]]⟩ :=
    ⟨by decide, by decide⟩
  have hp : Dataset.cities.rows.Perm Dataset.cities.rows.reverse := (List.reverse_perm _).symm
  exact ⟨by decide, _, Dataset.cities_table, hk, hp,
    answer_perm (by decide) Dataset.cities_table hk hp ⟨.usual, none⟩ citiesByName⟩

end Pipeline

end RowQuery
