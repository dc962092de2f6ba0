import RowQuery.Pipeline
import RowQuery.Proofs.Filter.Reported
import RowQuery.Proofs.Params
import RowQuery.Proofs.Query.Meaning

/-!
What a request asks of a view. The filters and the free-text query narrow the view, each by a `Sieve`
that follows from the columns of the table alone, and then the view is ordered by places that follow
from them too: `Pipeline.apply_eq`. The sieve of the filters is made of one step for each of them, so it
is settled by the set of the filters, whatever their order and however often one is given
(`filterSieve_ok_iff`, `exists_filterSieve_iff`).
-/

namespace RowQuery

open Outcome

/-- A way to narrow a view. -/
structure Sieve where
  steps : List Step
  /-- Whether of rows with one primary key only the first is shown. -/
  distinct : Bool
  /-- Whether no row is shown. -/
  empty : Bool

/-- Whether a row goes through the sieve. -/
def Sieve.admits (a : Sieve) (row : Row) : Bool := !a.empty && a.steps.all (Step.admits row)

namespace View

/-- The view narrowed by a sieve. -/
def sift (v : View) (a : Sieve) : View :=
  { v with
    steps := v.steps ++ a.steps
    distinct := v.distinct || a.distinct
    empty := v.empty || a.empty }

variable {v w : View}

lemma shows_sift (v : View) (a : Sieve) (row : Row) :
    (v.sift a).shows row = (v.shows row && a.admits row) := by
  simp only [shows, sift, Sieve.admits, List.all_append, Bool.not_or]
  cases v.empty <;> cases a.empty <;> simp

/-- The rows of a view are settled by the rows that it shows at all, by whether it repeats keys and by
its order. -/
lemma rows_congr (ht : v.table = w.table) (hd : v.distinct = w.distinct)
    (ho : v.ordering = w.ordering) (hs : ∀ row, v.shows row = w.shows row) : v.rows = w.rows := by
  have hselected : v.selected = w.selected := by
    rw [selected_eq, selected_eq, ht, hd, funext hs]
  rw [rows, rows, ho, hselected]

end View

/-- The sieve of a filter: the steps of its clauses. -/
def Filter.sieve (s : Schema) (f : Filter) : Except FilterError Sieve :=
  (f.clauses.mapM (Clause.reportedStep s)).map fun sts => ⟨sts, !f.clauses.isEmpty, false⟩

/-- The sieve of what a free-text query asks for. -/
def SearchOutcome.sieve (config : Config) (s : Schema) : SearchOutcome → Except FilterError Sieve
  | everything => .ok ⟨[], false, false⟩
  | nothing => .ok ⟨[], false, true⟩
  | rows p => ((RowTest.ofPredicate s p).mapError (FilterError.ofStore config.searchParam)).map
      fun test => ⟨[.keep test], false, false⟩

lemma Filter.apply_eq_sift (f : Filter) (v : View) :
    f.apply v = (f.sieve v.table.schema).map v.sift := by
  rw [apply_eq, sieve]
  cases hsteps : f.clauses.mapM (Clause.reportedStep v.table.schema) with
  | error e => rfl
  | ok sts =>
    refine congrArg Except.ok ?_
    show (if f.clauses.isEmpty then v else DataSource.distinct (v.addSteps sts)) =
      v.sift ⟨sts, !f.clauses.isEmpty, false⟩
    cases hempty : f.clauses.isEmpty with
    | true =>
      rw [List.isEmpty_iff.mp hempty] at hsteps
      cases hsteps
      simp [View.sift]
    | false =>
      show _ = ({ v with steps := _, distinct := _, empty := _ } : View)
      rw [if_neg Bool.false_ne_true, Bool.not_false, Bool.or_true, Bool.or_false]
      rfl

lemma Search.apply_eq_sift (config : Config) (outcome : SearchOutcome) (v : View) :
    Search.apply config outcome v = (outcome.sieve config v.table.schema).map v.sift := by
  cases outcome with
  | everything =>
    refine congrArg Except.ok ?_
    simp [View.sift]
  | nothing =>
    refine congrArg Except.ok ?_
    show ({ v with empty := true } : View) = v.sift ⟨[], false, true⟩
    simp [View.sift]
  | rows p =>
    rw [Search.apply, View.filter_eq, SearchOutcome.sieve]
    cases RowTest.ofPredicate v.table.schema p with
    | error e => rfl
    | ok test =>
      refine congrArg Except.ok ?_
      simp [View.sift, View.addSteps]

namespace Request

/-- The request with other parameters. -/
def withPairs (r : Request) (pairs : List (String × String)) : Request :=
  { r with params := .ofPairs pairs }

/-- The clause that one parameter with one of its values means. -/
def clause (r : Request) (x : String × String) : Except FilterError Clause := do
  Clause.compile (← r.fieldCatalog) x.1 x.2

/-- The step of the clause for a table. -/
def filterStep (r : Request) (s : Schema) (x : String × String) : Except FilterError Step := do
  (← r.clause x).reportedStep s

variable {r : Request} {config : Config} {pairs : List (String × String)}

/-- The filters are the parameters that are not ignored. -/
lemma mem_filters_withPairs {x : String × String} :
    x ∈ (r.withPairs pairs).filters config ↔ x ∈ pairs ∧ r.isIgnored config x.1 = false := by
  rw [filters, List.mem_filter]
  show x ∈ (Params.ofPairs pairs).occurrences ∧ (!r.isIgnored config x.1) = true ↔ _
  rw [Params.mem_occurrences_ofPairs, Bool.not_eq_true']

lemma get?_withPairs (r : Request) (pairs : List (String × String)) (name : String) :
    (r.withPairs pairs).params.get? name = lastValue? pairs name := by
  rw [Params.get?, lastValue?, withPairs, Params.getAll_ofPairs, List.getLast?_map]

end Request

namespace Pipeline

/-- The sieve of a request's filters. -/
def filterSieve (p : Pipeline) (r : Request) (s : Schema) : Except FilterError Sieve := do
  (← Filter.compile p.config r r.fieldCatalog).sieve s

/-- The sieve of a request's free-text query. -/
def searchSieve (p : Pipeline) (r : Request) (s : Schema) : Except FilterError Sieve := do
  (← Search.compile p.config r r.fieldCatalog).sieve p.config s

/-- The places that a request is sorted by. -/
def places (p : Pipeline) (r : Request) (s : Schema) : Except FilterError (List SortColumn) := do
  let ts ← Sorting.effective p.config r (r.keyCatalog p.sortable) s.primaryKey
  ((ts.map (Sorting.resolve s.primaryKey)).mapM (View.sortColumn s)).mapError FilterError.store

variable {p : Pipeline} {r : Request} {s : Schema} {a : Sieve}

lemma applyFilter_eq (p : Pipeline) (r : Request) (v : View) :
    p.applyFilter r r.fieldCatalog v = (p.filterSieve r v.table.schema).map v.sift := by
  rw [applyFilter, filterSieve]
  cases Filter.compile p.config r r.fieldCatalog with
  | error e => rfl
  | ok f => exact f.apply_eq_sift v

lemma applySearch_eq (p : Pipeline) (r : Request) (v : View) :
    p.applySearch r r.fieldCatalog v = (p.searchSieve r v.table.schema).map v.sift := by
  rw [applySearch, searchSieve]
  cases Search.compile p.config r r.fieldCatalog with
  | error e => rfl
  | ok outcome => exact Search.apply_eq_sift p.config outcome v

lemma applySort_eq (p : Pipeline) (r : Request) (v : View) :
    p.applySort r (r.keyCatalog p.sortable) v =
      (p.places r v.table.schema).map fun cs => { v with ordering := cs } := by
  have hkey : DataSource.primaryKey v = v.table.schema.primaryKey := rfl
  rw [applySort, places, hkey]
  cases Sorting.effective p.config r (r.keyCatalog p.sortable) v.table.schema.primaryKey with
  | error e => rfl
  | ok ts =>
    show ((((ts.map (Sorting.resolve v.table.schema.primaryKey)).mapM
      (View.sortColumn v.table.schema)).map fun cs => { v with ordering := cs }).mapError
        FilterError.store) =
      (((ts.map (Sorting.resolve v.table.schema.primaryKey)).mapM
        (View.sortColumn v.table.schema)).mapError FilterError.store).map
          fun cs => { v with ordering := cs }
    cases (ts.map (Sorting.resolve v.table.schema.primaryKey)).mapM
      (View.sortColumn v.table.schema) <;> rfl

/-- A request narrows a view by two sieves and orders it by places, all of them settled by the columns of
the table. -/
lemma apply_eq (p : Pipeline) (r : Request) (v : View) : p.apply r v = (do
    let a ← p.filterSieve r v.table.schema
    let b ← p.searchSieve r v.table.schema
    let cs ← p.places r v.table.schema
    return { (v.sift a).sift b with ordering := cs }) := by
  rw [apply, applyFilter_eq]
  cases p.filterSieve r v.table.schema with
  | error e => rfl
  | ok a =>
    show (p.applySearch r r.fieldCatalog (v.sift a) >>= _) = _
    rw [applySearch_eq]
    -- Narrowing keeps the table, so the columns are those of the first view.
    show ((p.searchSieve r v.table.schema).map _ >>= _) = (p.searchSieve r v.table.schema >>= _)
    cases p.searchSieve r v.table.schema with
    | error e => rfl
    | ok b =>
      show p.applySort r (r.keyCatalog p.sortable) ((v.sift a).sift b) = _
      rw [applySort_eq]
      show (p.places r v.table.schema).map _ = (p.places r v.table.schema >>= _)
      cases p.places r v.table.schema <;> rfl

/-- A request succeeds iff each of its three stages does. -/
lemma apply_ok_iff {v w : View} : p.apply r v = .ok w ↔ ∃ a b cs,
    p.filterSieve r v.table.schema = .ok a ∧ p.searchSieve r v.table.schema = .ok b ∧
      p.places r v.table.schema = .ok cs ∧ w = { (v.sift a).sift b with ordering := cs } := by
  rw [apply_eq]
  constructor
  · intro h
    obtain ⟨a, ha, h⟩ := bind_ok_iff.mp h
    obtain ⟨b, hb, h⟩ := bind_ok_iff.mp h
    obtain ⟨cs, hcs, h⟩ := bind_ok_iff.mp h
    cases h
    exact ⟨a, b, cs, ha, hb, hcs, rfl⟩
  · rintro ⟨a, b, cs, ha, hb, hcs, rfl⟩
    rw [ha, hb, hcs]
    rfl

/-- The sieve of the filters consists of the steps that they mean one by one. -/
lemma filterSieve_ok_iff : p.filterSieve r s = .ok a ↔
    ∃ sts, (r.filters p.config).mapM (r.filterStep s) = .ok sts ∧
      a = ⟨sts, !(r.filters p.config).isEmpty, false⟩ := by
  have hempty {cs : List Clause} (h : (r.filters p.config).mapM r.clause = .ok cs) :
      cs.isEmpty = (r.filters p.config).isEmpty := by
    rw [Bool.eq_iff_iff, List.isEmpty_iff_length_eq_zero, List.isEmpty_iff_length_eq_zero,
      (mapM_ok_iff.mp h).length_eq]
  constructor
  · intro h
    obtain ⟨f, hf, h⟩ := bind_ok_iff.mp h
    obtain ⟨sts, hsts, rfl⟩ := map_ok_iff.mp h
    have hf := Filter.compile_ok_iff.mp hf
    rw [hempty hf]
    exact ⟨sts, mapM_mapM_ok_iff.mp ⟨_, hf, hsts⟩, rfl⟩
  · rintro ⟨sts, h, rfl⟩
    obtain ⟨cs, hcs, hsts⟩ := mapM_mapM_ok_iff.mpr h
    refine bind_ok_iff.mpr ⟨⟨cs⟩, Filter.compile_ok_iff.mpr hcs, map_ok_iff.mpr ⟨sts, hsts, ?_⟩⟩
    rw [hempty hcs]

/-- The filters make a sieve iff each of them means a step. -/
lemma exists_filterSieve_iff : (∃ a, p.filterSieve r s = .ok a) ↔
    ∀ x ∈ r.filters p.config, ∃ st, r.filterStep s x = .ok st := by
  rw [← exists_mapM_ok_iff]
  constructor
  · rintro ⟨a, ha⟩
    obtain ⟨sts, hsts, -⟩ := filterSieve_ok_iff.mp ha
    exact ⟨sts, hsts⟩
  · rintro ⟨sts, hsts⟩
    exact ⟨_, filterSieve_ok_iff.mpr ⟨sts, hsts, rfl⟩⟩

/-- A row goes through the sieve of the filters iff the step of each of them admits it. -/
lemma filterSieve_admits (h : p.filterSieve r s = .ok a) (row : Row) : a.admits row = true ↔
    ∀ x ∈ r.filters p.config, ∀ st, r.filterStep s x = .ok st → st.admits row = true := by
  obtain ⟨sts, hsts, rfl⟩ := filterSieve_ok_iff.mp h
  have hsts := mapM_ok_iff.mp hsts
  rw [Sieve.admits, Bool.not_false, Bool.true_and, List.all_eq_true]
  constructor
  · intro hall x hx st hst
    obtain ⟨st', hmem, hst'⟩ := exists_of_mem_left hsts x hx
    rw [hst] at hst'
    cases hst'
    exact hall st hmem
  · intro hall st hst
    obtain ⟨x, hx, hstep⟩ := exists_of_mem_right hsts st hst
    exact hall x hx st hstep

lemma filterSieve_distinct (h : p.filterSieve r s = .ok a) :
    a.distinct = !(r.filters p.config).isEmpty := by
  obtain ⟨sts, -, rfl⟩ := filterSieve_ok_iff.mp h
  rfl

/-- The filters alone settle the first sieve. -/
lemma filterSieve_of_filters {params params' : Params}
    (h : Request.filters { r with params := params } p.config =
      Request.filters { r with params := params' } p.config) :
    p.filterSieve { r with params := params } s = p.filterSieve { r with params := params' } s := by
  rw [filterSieve, filterSieve, Filter.compile, Filter.compile, Filter.needsCatalog,
    Filter.needsCatalog, h]
  rfl

/-- The free-text query alone settles the second sieve. -/
lemma searchSieve_of_query {params params' : Params}
    (h : params.get? p.config.searchParam = params'.get? p.config.searchParam) :
    p.searchSieve { r with params := params } s = p.searchSieve { r with params := params' } s := by
  have hterms : Search.terms p.config { r with params := params } =
      Search.terms p.config { r with params := params' } := by
    rw [Search.terms, Search.query, h]
    rfl
  rw [searchSieve, searchSieve, Search.compile, Search.compile, Search.needsCatalog,
    Search.needsCatalog, hterms]
  rfl

/-- The ordering parameter alone settles the places. -/
lemma places_of_ordering {params params' : Params}
    (h : params.get? p.config.orderingParam = params'.get? p.config.orderingParam) :
    p.places { r with params := params } s = p.places { r with params := params' } s := by
  have hrequested : Sorting.requested p.config { r with params := params } =
      Sorting.requested p.config { r with params := params' } := by
    rw [Sorting.requested, h]
    rfl
  rw [places, places, Sorting.effective, Sorting.effective, Sorting.terms, Sorting.terms,
    Sorting.needsCatalog, Sorting.needsCatalog, hrequested]
  rfl

lemma searchSieve_congr {pairs pairs' : List (String × String)}
    (h : lastValue? pairs p.config.searchParam = lastValue? pairs' p.config.searchParam) :
    p.searchSieve (r.withPairs pairs) s = p.searchSieve (r.withPairs pairs') s :=
  searchSieve_of_query <| by
    rw [← Request.get?_withPairs r, ← Request.get?_withPairs r] at h
    exact h

lemma places_congr {pairs pairs' : List (String × String)}
    (h : lastValue? pairs p.config.orderingParam = lastValue? pairs' p.config.orderingParam) :
    p.places (r.withPairs pairs) s = p.places (r.withPairs pairs') s :=
  places_of_ordering <| by
    rw [← Request.get?_withPairs r, ← Request.get?_withPairs r] at h
    exact h

end Pipeline

end RowQuery
