import RowQuery.Proofs.Catalog.OwnFields
import RowQuery.Proofs.Filter.Reported
import RowQuery.Proofs.Predicate.Lookups
import RowQuery.Proofs.Query.Meaning

/-!
Filters over the fields that a table gives by itself. A clause that could be compiled can only be
refused for its operand, and where it is not, the rows that its step admits are those whose cell under
the column is selected by the expression (`Clause.admits_iff`).
-/

namespace RowQuery

open Outcome Predicate

variable {s : Schema} {row : Row}

namespace Clause

variable {name text : String} {c : Clause}

/-- The step of a clause is refused only for the operand. -/
lemma step_blames (hs : s.Distinct) (hc : compile ⟨Field.ofSchema s⟩ name text = .ok c)
    {e : StoreError} (h : c.step s = .error e) : e.blamesOperand = true := by
  obtain ⟨column, hmem, e', rfl, -, rfl⟩ := compile_ofSchema hc
  exact RowTest.ofLookup_blames hs hmem (map_error_iff.mp h)

/-- The step of a clause admits the rows whose cell under the column the expression selects. -/
lemma admits_iff (hs : s.Distinct) (hc : compile ⟨Field.ofSchema s⟩ name text = .ok c) {st : Step}
    (hst : c.step s = .ok st) (hr : s.Admits row) :
    st.admits row = true ↔ ∃ e, Expression.parse name text = .ok e ∧
      ∃ x ∈ s.columns.zip row, x.1.name = name ∧ e.selects x.1.kind x.2 = true := by
  obtain ⟨column, hmem, e, rfl, hparse, rfl⟩ := compile_ofSchema hc
  obtain ⟨i, hi⟩ := List.getElem?_of_mem hmem
  obtain ⟨v, hv⟩ := hr.exists_mem_zip hmem
  have hvi : row[i]? = some v := by
    obtain ⟨j, hj, hvj⟩ := Schema.mem_zip_iff.mp hv
    rw [hs.place_inj hi hj rfl]
    exact hvj
  obtain ⟨rowTest, htest, rfl⟩ := map_ok_iff.mp hst
  rw [RowTest.ofPredicate, RowTest.ofLookup_column hs hi] at htest
  obtain ⟨test, hmade, rfl⟩ := map_ok_iff.mp htest
  have hselects : e.selects column.kind v =
      if e.operator.negated then !test.holds v else test.holds v := by
    rw [Expression.selects_eq (Expression.operand?_of_parse hparse).1,
      Expression.holds_eq_meets (CellTest.ofLookup_ok_iff.mp hmade) (hr.of_mem_zip hv)]
  have hadmits : Step.admits row (if e.operator.negated then .drop (.cell i test)
      else .keep (.cell i test)) = e.selects column.kind v := by
    rw [hselects]
    split <;> simp [Step.admits, RowTest.holds, hvi]
  rw [hadmits]
  constructor
  · intro h
    exact ⟨e, hparse, (column, v), hv, rfl, h⟩
  · rintro ⟨e', hparse', x, hx, hn, h⟩
    rw [hparse] at hparse'
    cases hparse'
    rw [hs.eq_of_mem_zip hx hv hn] at h
    exact h

end Clause

namespace Filter

variable {config : Config} {r : Request} {f : Filter}

/-- Compiling makes one clause of each parameter that is no special one. -/
lemma compile_ok (h : compile config r (.ok ⟨Field.ofSchema s⟩) = .ok f) :
    List.Forall₂ (fun x c => Clause.compile ⟨Field.ofSchema s⟩ x.1 x.2 = .ok c) (r.filters config)
      f.clauses :=
  mapM_ok_iff.mp (compile_ok_iff.mp h)

/-- A parameter that cannot be compiled is blamed on the request. -/
lemma compile_isValidation {e : FilterError}
    (h : compile config r (.ok ⟨Field.ofSchema s⟩) = .error e) : e.isValidation = true := by
  obtain ⟨-, hcat | ⟨fields, hcat, h⟩⟩ := compile_error_iff.mp h
  · cases hcat
  · cases hcat
    obtain ⟨-, x, -, -, -, h⟩ := mapM_error_iff.mp h
    exact Clause.compile_isValidation h

/-- A filter that is refused is blamed on the request. -/
lemma apply_isValidation {v : View} (hs : v.table.schema.Distinct)
    (hf : compile config r (.ok ⟨Field.ofSchema v.table.schema⟩) = .ok f) {e : FilterError}
    (h : f.apply v = .error e) : e.isValidation = true := by
  obtain ⟨before, c, after, cause, hcs, -, hc, rfl, -⟩ := apply_error h
  obtain ⟨x, -, hx⟩ := exists_of_mem_right (compile_ok hf) c (by simp [hcs])
  rw [FilterError.ofStore, if_pos (Clause.step_blames hs hx hc)]
  rfl

/-- A filter narrows a view to the rows whose cells its expressions select, and with a clause it shows
no key twice. -/
lemma apply_shows {v w : View} (hs : v.table.schema.Distinct)
    (hf : compile config r (.ok ⟨Field.ofSchema v.table.schema⟩) = .ok f) (h : f.apply v = .ok w) :
    w.table = v.table ∧ w.distinct = (v.distinct || !(r.filters config).isEmpty) ∧
      ∀ row, v.table.schema.Admits row → (w.shows row = true ↔ v.shows row = true ∧
        ∀ x ∈ r.filters config, ∃ e, Expression.parse x.1 x.2 = .ok e ∧
          ∃ y ∈ v.table.schema.columns.zip row, y.1.name = x.1 ∧
            e.selects y.1.kind y.2 = true) := by
  have hcs := compile_ok hf
  rw [apply_eq] at h
  obtain ⟨sts, hsts, rfl⟩ := map_ok_iff.mp h
  have hsts := mapM_ok_iff.mp (mapM_reportedStep_ok.mp hsts)
  have hempty : f.clauses.isEmpty = (r.filters config).isEmpty := by
    rw [Bool.eq_iff_iff, List.isEmpty_iff_length_eq_zero, List.isEmpty_iff_length_eq_zero,
      hcs.length_eq]
  rw [hempty]
  split_ifs with hnil
  · refine ⟨rfl, by rw [hnil, Bool.not_true, Bool.or_false], fun row _ => ?_⟩
    simp [List.isEmpty_iff.mp hnil]
  · have hnil := Bool.eq_false_iff.mpr hnil
    refine ⟨rfl, by rw [hnil, Bool.not_false, Bool.or_true]; rfl, fun row hr => ?_⟩
    show (v.addSteps sts).shows row = true ↔ _
    rw [View.shows_addSteps, Bool.and_eq_true, List.all_eq_true]
    refine and_congr_right fun _ => ⟨fun h x hx => ?_, fun h st hst => ?_⟩
    · obtain ⟨c, hc, hx⟩ := exists_of_mem_left hcs x hx
      obtain ⟨st, hst, hstep⟩ := exists_of_mem_left hsts c hc
      exact (Clause.admits_iff hs hx hstep hr).mp (h st hst)
    · obtain ⟨c, hc, hstep⟩ := exists_of_mem_right hsts st hst
      obtain ⟨x, hx, hcompile⟩ := exists_of_mem_right hcs c hc
      exact (Clause.admits_iff hs hcompile hstep hr).mpr (h x hx)

end Filter

end RowQuery
