import RowQuery.Pipeline
import RowQuery.Proofs.Filter.Reported

/-!
Views that ask the same of their rows. Two views are twins if they differ in the rows of their tables
alone. A request is checked against the columns and never looks at a row, so it makes twins of twins
or fails on both with one error: `Pipeline.apply_twins`. The stages that narrow a view keep its table.
-/

namespace RowQuery

open Outcome

namespace View

/-- The views differ in the rows of their tables alone. -/
structure Twins (v w : View) : Prop where
  schema : v.table.schema = w.table.schema
  steps : v.steps = w.steps
  distinct : v.distinct = w.distinct
  empty : v.empty = w.empty
  ordering : v.ordering = w.ordering

/-- The whole tables of one schema are twins. -/
lemma ofTable_twins {t t' : Table} (h : t.schema = t'.schema) : Twins (ofTable t) (ofTable t') :=
  ⟨h, rfl, rfl, rfl, rfl⟩

namespace Twins

variable {v w : View}

lemma step (h : Twins v w) (make : RowTest → Step) (p : Predicate) :
    Agree Twins (v.step make p) (w.step make p) := by
  rw [View.step]
  rw [h.schema]
  refine (agree_refl _).map ?_
  rintro test _ rfl
  exact ⟨h.schema, by rw [h.steps], h.distinct, h.empty, h.ordering⟩

lemma showDistinct (h : Twins v w) : Twins (DataSource.distinct v) (DataSource.distinct w) :=
  ⟨h.schema, h.steps, rfl, h.empty, h.ordering⟩

lemma showNothing (h : Twins v w) : Twins (DataSource.nothing v) (DataSource.nothing w) :=
  ⟨h.schema, h.steps, h.distinct, rfl, h.ordering⟩

lemma orderBy (h : Twins v w) (ts : List OrderTerm) :
    Agree Twins (DataSource.orderBy v ts) (DataSource.orderBy w ts) := by
  show Agree Twins ((ts.mapM (sortColumn v.table.schema)).map _)
    ((ts.mapM (sortColumn w.table.schema)).map _)
  rw [h.schema]
  refine (agree_refl _).map ?_
  rintro ordering _ rfl
  exact ⟨h.schema, h.steps, h.distinct, h.empty, rfl⟩

lemma primaryKey (h : Twins v w) : DataSource.primaryKey v = DataSource.primaryKey w :=
  congrArg Schema.primaryKey h.schema

end Twins

end View

open View (Twins)

variable {v w : View}

lemma Clause.apply_twins (c : Clause) (h : Twins v w) : Agree Twins (c.apply v) (c.apply w) := by
  unfold Clause.apply
  split
  · exact (h.step .drop c.predicate).mapError _
  · exact (h.step .keep c.predicate).mapError _

lemma Filter.foldlM_twins (cs : List Clause) (h : Twins v w) :
    Agree Twins (cs.foldlM (fun view (c : Clause) => c.apply view) v)
      (cs.foldlM (fun view (c : Clause) => c.apply view) w) := by
  induction cs generalizing v w with
  | nil => exact .ok h
  | cons c cs ih => exact (c.apply_twins h).bind fun _ _ h' => ih h'

lemma Filter.apply_twins (f : Filter) (h : Twins v w) : Agree Twins (f.apply v) (f.apply w) := by
  unfold Filter.apply
  split
  · exact .ok h
  · exact (foldlM_twins f.clauses h).map fun _ _ h' => h'.showDistinct

lemma Search.apply_twins (config : Config) (outcome : SearchOutcome) (h : Twins v w) :
    Agree Twins (Search.apply config outcome v) (Search.apply config outcome w) := by
  cases outcome with
  | everything => exact .ok h
  | nothing => exact .ok h.showNothing
  | rows p => exact (h.step .keep p).mapError _

lemma Sorting.apply_twins (ts : List OrderTerm) (h : Twins v w) :
    Agree Twins (Sorting.apply ts v) (Sorting.apply ts w) := by
  rw [Sorting.apply]
  rw [h.primaryKey]
  exact (h.orderBy _).mapError _

namespace Pipeline

/-- A request makes twins of twins, or fails on both with one error. -/
lemma apply_twins (p : Pipeline) (r : Request) (h : Twins v w) :
    Agree Twins (p.apply r v) (p.apply r w) := by
  rw [apply]
  refine Agree.bind (R := Twins) ?_ fun v₁ w₁ h₁ => Agree.bind (R := Twins) ?_ fun v₂ w₂ h₂ => ?_
  · refine (agree_refl _).bind ?_
    rintro f _ rfl
    exact f.apply_twins h
  · refine (agree_refl _).bind ?_
    rintro outcome _ rfl
    exact Search.apply_twins p.config outcome h₁
  · rw [applySort]
    rw [h₂.primaryKey]
    refine (agree_refl _).bind ?_
    rintro ts _ rfl
    exact Sorting.apply_twins ts h₂

/-- A view that went through the filter stage is one of the same table. -/
lemma applyFilter_table (p : Pipeline) {r : Request} {catalog : Except FilterError (Catalog Field)}
    (h : p.applyFilter r catalog v = .ok w) : w.table = v.table := by
  obtain ⟨f, -, h⟩ := bind_ok_iff.mp h
  rw [Filter.apply_eq] at h
  obtain ⟨sts, -, rfl⟩ := map_ok_iff.mp h
  split <;> rfl

lemma applySearch_table (p : Pipeline) {r : Request} {catalog : Except FilterError (Catalog Field)}
    (h : p.applySearch r catalog v = .ok w) : w.table = v.table := by
  obtain ⟨outcome, -, h⟩ := bind_ok_iff.mp h
  cases outcome with
  | everything =>
    cases h
    rfl
  | nothing =>
    cases h
    rfl
  | rows condition =>
    have h := mapError_ok_iff.mp h
    rw [View.filter_eq] at h
    obtain ⟨test, -, rfl⟩ := map_ok_iff.mp h
    rfl

end Pipeline

end RowQuery
