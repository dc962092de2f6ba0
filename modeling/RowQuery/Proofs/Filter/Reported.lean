import RowQuery.Filter
import RowQuery.Proofs.Predicate.Truth
import RowQuery.Proofs.Table.Steps

/-!
The condition that a filter reports is the one that it applies. A filter narrows a view clause by
clause, dropping rows for negated operators; the reported condition has the negations folded in and
is one flat conjunction. Both come down to one walk over the clauses, `Clause.step`: it gives the
steps of the narrowed view (`foldlM_apply`) and the answers of the reported condition
(`truth_predicate`), and it has one first error.
-/

namespace RowQuery

open Outcome Predicate

namespace Clause

/-- The step by which a clause narrows the views of a table. -/
def step (s : Schema) (c : Clause) : Except StoreError Step :=
  (RowTest.ofPredicate s c.predicate).map fun test =>
    if c.operator.negated then .drop test else .keep test

/-- The step of a clause, with the error that is reported against the field. -/
def reportedStep (s : Schema) (c : Clause) : Except FilterError Step :=
  (c.step s).mapError (FilterError.ofStore c.field)

/-- Applying a clause adds its step. -/
lemma apply_eq (c : Clause) (v : View) :
    c.apply v = (c.reportedStep v.table.schema).map fun st => v.addSteps [st] := by
  rw [apply, reportedStep, step]
  cases hn : c.operator.negated with
  | true =>
    rw [if_pos rfl, View.exclude_eq]
    cases RowTest.ofPredicate v.table.schema c.predicate <;> rfl
  | false =>
    rw [if_neg Bool.false_ne_true, View.filter_eq]
    cases RowTest.ofPredicate v.table.schema c.predicate <;> rfl

/-- The condition of a clause with the negation folded in says which rows its step admits. -/
lemma truth_effective (s : Schema) (c : Clause) :
    truth s c.effective = (c.step s).map fun st row => st.admits row := by
  rw [effective, step]
  cases hn : c.operator.negated with
  | true =>
    rw [if_pos rfl, truth_negate, truth_not, truth]
    cases RowTest.ofPredicate s c.predicate <;> rfl
  | false =>
    rw [if_neg Bool.false_ne_true, truth]
    cases RowTest.ofPredicate s c.predicate <;> rfl

end Clause

namespace Filter

section Compile

variable {config : Config} {r : Request} {catalog : Except FilterError (Catalog Field)}

/-- Without a filter the catalog does not matter. -/
lemma compile_of_nil (h : r.filters config = []) : compile config r catalog = .ok ⟨[]⟩ := by
  rw [compile, needsCatalog, h]
  rfl

/-- With a filter the catalog comes first. -/
lemma compile_of_ne_nil (h : r.filters config ≠ []) : compile config r catalog =
    catalog >>= fun fields =>
      ((r.filters config).mapM fun x => Clause.compile fields x.1 x.2).map Filter.mk := by
  rw [compile, needsCatalog, List.isEmpty_eq_false_iff.mpr h]
  refine congrArg (catalog >>= ·) (funext fun fields => ?_)
  cases (r.filters config).mapM fun x => Clause.compile fields x.1 x.2 <;> rfl

/-- Compiling succeeds without a filter, or with a catalog in which each filter has a clause. -/
lemma compile_ok_cases {f : Filter} : compile config r catalog = .ok f ↔
    r.filters config = [] ∧ f.clauses = [] ∨ ∃ fields, catalog = .ok fields ∧
      (r.filters config).mapM (fun x => Clause.compile fields x.1 x.2) = .ok f.clauses := by
  obtain ⟨clauses⟩ := f
  by_cases h : r.filters config = []
  · rw [compile_of_nil h, h]
    constructor
    · rintro ⟨⟩
      exact .inl ⟨rfl, rfl⟩
    · rintro (⟨-, rfl⟩ | ⟨fields, -, ⟨⟩⟩) <;> rfl
  · rw [compile_of_ne_nil h, bind_ok_iff, or_iff_right fun hempty => h hempty.1]
    refine exists_congr fun fields => and_congr_right fun _ => ?_
    cases (r.filters config).mapM fun x => Clause.compile fields x.1 x.2 <;> simp [Except.map]

/-- Compiling fails only with a filter: there is no catalog, or a filter has no clause in it. -/
lemma compile_error_iff {e : FilterError} : compile config r catalog = .error e ↔
    r.filters config ≠ [] ∧ (catalog = .error e ∨ ∃ fields, catalog = .ok fields ∧
      (r.filters config).mapM (fun x => Clause.compile fields x.1 x.2) = .error e) := by
  by_cases h : r.filters config = []
  · rw [compile_of_nil h]
    simp [h]
  · rw [compile_of_ne_nil h, bind_error_iff, and_iff_right h]
    simp only [map_error_iff]

/-- Compiling filters is compiling them one by one, each with a look at the catalog. -/
lemma compile_ok_iff {f : Filter} : compile config r catalog = .ok f ↔
    (r.filters config).mapM (fun x => catalog >>= fun fields => Clause.compile fields x.1 x.2) =
      .ok f.clauses := by
  simp only [compile_ok_cases, mapM_ok_iff, bind_ok_iff]
  cases catalog with
  | error e => cases r.filters config <;> cases f.clauses <;> simp
  | ok fields =>
    simp only [Except.ok.injEq, exists_eq_left']
    refine or_iff_right_of_imp fun hempty => ?_
    rw [hempty.1, hempty.2]
    exact .nil

end Compile

/-- Applying clauses one after the other adds their steps; the first that fails counts. -/
lemma foldlM_apply (cs : List Clause) (v : View) :
    cs.foldlM (fun view (c : Clause) => c.apply view) v =
      (cs.mapM (Clause.reportedStep v.table.schema)).map v.addSteps := by
  induction cs generalizing v with
  | nil => exact congrArg Except.ok v.addSteps_nil.symm
  | cons c cs ih =>
    rw [List.foldlM_cons, List.mapM_cons, Clause.apply_eq]
    cases Clause.reportedStep v.table.schema c with
    | error e => rfl
    | ok st =>
      -- Steps do not change the schema that the other clauses are checked against.
      refine (ih (v.addSteps [st])).trans ?_
      rw [View.addSteps_table]
      cases cs.mapM (Clause.reportedStep v.table.schema) with
      | error e => rfl
      | ok sts => exact congrArg Except.ok (v.addSteps_addSteps [st] sts)

/-- The clauses with their negations folded in say together which rows all of the steps admit. -/
lemma truths_effective (s : Schema) (cs : List Clause) :
    (truths s (cs.map Clause.effective)).map everySays =
      (cs.mapM (Clause.step s)).map fun sts row => sts.all (Step.admits row) := by
  induction cs with
  | nil => rfl
  | cons c cs ih =>
    rw [List.map_cons, ← List.singleton_append, truths_append everySays_splits, truths_singleton,
      Clause.truth_effective, ih, List.mapM_cons]
    cases Clause.step s c with
    | error e => rfl
    | ok st => cases cs.mapM (Clause.step s) <;> rfl

/-- The reported condition says which rows all of the steps admit. -/
lemma truth_predicate (s : Schema) (f : Filter) :
    truth s f.predicate =
      (f.clauses.mapM (Clause.step s)).map fun sts row => sts.all (Step.admits row) := by
  rw [predicate, truth_all, truth_and, truths_effective]

/-- Applying a filter adds the steps of its clauses; with a clause, no row is shown twice. -/
lemma apply_eq (f : Filter) (v : View) :
    f.apply v = (f.clauses.mapM (Clause.reportedStep v.table.schema)).map fun sts =>
      if f.clauses.isEmpty then v else DataSource.distinct (v.addSteps sts) := by
  rw [apply, foldlM_apply]
  cases hc : f.clauses with
  | nil => rfl
  | cons c cs =>
    rw [if_neg (by simp)]
    cases (c :: cs).mapM (Clause.reportedStep v.table.schema) <;> rfl

/-- The steps of clauses and those with reported errors are the same where there is no error. -/
lemma mapM_reportedStep_ok {s : Schema} {cs : List Clause} {sts : List Step} :
    cs.mapM (Clause.reportedStep s) = .ok sts ↔ cs.mapM (Clause.step s) = .ok sts := by
  simp only [mapM_ok_iff, Clause.reportedStep, mapError_ok_iff]

/-- Filtering by the reported condition fails with the first error of a step. -/
lemma filter_predicate_error {f : Filter} {v : View} {cause : StoreError} :
    DataSource.filter v f.predicate = .error cause ↔
      f.clauses.mapM (Clause.step v.table.schema) = .error cause := by
  rw [View.filter_eq, map_error_iff, ← map_error_iff (f := fun test row => test.holds row), ← truth,
    truth_predicate, map_error_iff]

/-- A filter fails for the first clause whose condition cannot be made ready, and so does filtering by
the reported condition. -/
lemma apply_error {f : Filter} {v : View} {e : FilterError} (h : f.apply v = .error e) :
    ∃ before c after cause, f.clauses = before ++ c :: after ∧
      (∀ b ∈ before, ∃ st, b.step v.table.schema = .ok st) ∧
      c.step v.table.schema = .error cause ∧ FilterError.ofStore c.field cause = e ∧
      DataSource.filter v f.predicate = .error cause := by
  rw [apply_eq, map_error_iff, mapM_error_iff] at h
  obtain ⟨before, c, after, hcs, hb, hc⟩ := h
  obtain ⟨cause, hc, he⟩ := mapError_error_iff.mp hc
  have hb : ∀ b ∈ before, ∃ st, b.step v.table.schema = .ok st := by
    intro b hmem
    obtain ⟨st, hst⟩ := hb b hmem
    exact ⟨st, mapError_ok_iff.mp hst⟩
  have hf := mapM_error_iff.mpr ⟨before, c, after, hcs, hb, hc⟩
  exact ⟨before, c, after, cause, hcs, hb, hc, he, filter_predicate_error.mpr hf⟩

/-- Filtering by the reported condition admits the rows that all of the steps admit. -/
lemma filter_predicate_ok {f : Filter} {v u : View} (h : DataSource.filter v f.predicate = .ok u) :
    ∃ test sts, u = v.addSteps [.keep test] ∧
      f.clauses.mapM (Clause.step v.table.schema) = .ok sts ∧
      ∀ row, [Step.keep test].all (Step.admits row) = sts.all (Step.admits row) := by
  rw [View.filter_eq] at h
  obtain ⟨test, ht, rfl⟩ := map_ok_iff.mp h
  have said : truth v.table.schema f.predicate = .ok fun row => test.holds row := by
    rw [truth, ht]; rfl
  rw [truth_predicate] at said
  obtain ⟨sts, hs, same⟩ := map_ok_iff.mp said
  refine ⟨test, sts, rfl, hs, fun row => ?_⟩
  simpa [Step.admits] using (congrFun same row).symm

/-- A filter and its reported condition succeed together. With a clause they show the same rows. If
they fail, it is for the first clause whose condition cannot be made ready: the reported condition
fails with the store's error, and the filter blames the field of the clause, unless the store does
not know the column. -/
theorem apply_agrees_with_predicate (f : Filter) (v : View) :
    ((∃ w, f.apply v = .ok w) ↔ ∃ u, DataSource.filter v f.predicate = .ok u) ∧
    (∀ w u, f.clauses ≠ [] → f.apply v = .ok w → DataSource.filter v f.predicate = .ok u →
      w.rows = (DataSource.distinct u).rows) ∧
    ∀ e, f.apply v = .error e → ∃ before c after cause,
      f.clauses = before ++ c :: after ∧
      (∀ b ∈ before, ∃ test, RowTest.ofPredicate v.table.schema b.predicate = .ok test) ∧
      RowTest.ofPredicate v.table.schema c.predicate = .error cause ∧
      (e = match cause with
        | .typeMismatch .. | .invalidOperand .. => .typeMismatch c.field
        | .unknownColumn _ => .store cause) ∧
      DataSource.filter v f.predicate = .error cause := by
  refine ⟨⟨?_, ?_⟩, ?_, ?_⟩
  -- Both are one walk over the clauses: if the steps are there, so is the reported condition.
  · rintro ⟨w, hw⟩
    rw [apply_eq] at hw
    obtain ⟨sts, hs, -⟩ := map_ok_iff.mp hw
    rw [mapM_reportedStep_ok] at hs
    cases hu : DataSource.filter v f.predicate with
    | ok u => exact ⟨u, rfl⟩
    | error cause =>
      rw [filter_predicate_error, hs] at hu
      cases hu
  -- And an error of the filter would be one of the reported condition.
  · rintro ⟨u, hu⟩
    cases hw : f.apply v with
    | ok w => exact ⟨w, rfl⟩
    | error e =>
      obtain ⟨-, -, -, cause, -, -, -, -, hf⟩ := apply_error hw
      rw [hu] at hf
      cases hf
  · intro w u hne hw hu
    rw [apply_eq] at hw
    obtain ⟨sts, hs, rfl⟩ := map_ok_iff.mp hw
    obtain ⟨test, sts', rfl, hs', same⟩ := filter_predicate_ok hu
    rw [mapM_reportedStep_ok, hs'] at hs
    cases hs
    rw [if_neg (by simpa using hne), View.distinct_addSteps, View.distinct_addSteps]
    exact View.rows_addSteps_congr _ fun row => (same row).symm
  · intro e h
    obtain ⟨before, c, after, cause, hcs, hb, hc, he, hf⟩ := apply_error h
    refine ⟨before, c, after, cause, hcs, fun b hmem => ?_, map_error_iff.mp hc, ?_, hf⟩
    · obtain ⟨st, hst⟩ := hb b hmem
      obtain ⟨test, ht, -⟩ := map_ok_iff.mp hst
      exact ⟨test, ht⟩
    · rw [← he]
      cases cause <;> rfl

end Filter

end RowQuery
