import RowQuery.Proofs.Params
import RowQuery.Proofs.Pipeline.ClientErrors

/-!
The rows that answer a request. A list over the fields that a table gives by itself shows the rows
that the query means: those whose cells the parameters select and in which the search terms are found,
of each primary key the first one if there is a filter, in the order of the sort terms. Each stage of
the pipeline has a lemma that says how it changes which rows a view shows; `rows_of_apply` joins them.
-/

namespace RowQuery

open Outcome

variable {d : Dataset} {t : Table} {v w : View} {config : Config}
  {pairs : List (String × String)}

namespace Dataset

lemma get?_request (pairs : List (String × String)) (name : String) :
    (d.request pairs).params.get? name = lastValue? pairs name := by
  rw [Params.get?, lastValue?, request, Params.getAll_ofPairs, List.getLast?_map]

/-- The filters of a request are its parameters but the special ones. -/
lemma mem_filters_request {x : String × String} :
    x ∈ (d.request pairs).filters config ↔ x ∈ pairs ∧ config.isIgnored x.1 = false := by
  rw [Request.filters, List.mem_filter]
  simp [request, Params.mem_occurrences_ofPairs, Request.isIgnored]

lemma filters_request_isEmpty : ((d.request pairs).filters config).isEmpty =
    pairs.all fun pair => config.isIgnored pair.1 := by
  rw [Bool.eq_iff_iff, List.isEmpty_iff, List.eq_nil_iff_forall_not_mem, List.all_eq_true]
  simp only [mem_filters_request, not_and, Bool.not_eq_false]

end Dataset

namespace Pipeline

/-- A table shows the rows that the filters and the search terms of a query select. -/
lemma shows_of_stages (hs : d.schema.Distinct) (ht : t.schema = d.schema) (p : Pipeline)
    (hv : p.applyFilter (d.request pairs) (d.request pairs).fieldCatalog (View.ofTable t) = .ok v)
    (hw : p.applySearch (d.request pairs) (d.request pairs).fieldCatalog v = .ok w) :
    w.table = t ∧ w.distinct = !(pairs.all fun pair => p.config.isIgnored pair.1) ∧
      ∀ row, d.schema.Admits row → (w.shows row = true ↔ d.schema.Shows p.config pairs row) := by
  have htable := applyFilter_table p hv
  rw [Dataset.fieldCatalog_request pairs hs, ← ht] at hv
  obtain ⟨f, hf, hv⟩ := bind_ok_iff.mp hv
  obtain ⟨-, hdistinct, hshows⟩ := Filter.apply_shows (ht ▸ hs) hf hv
  obtain ⟨w', hw', hwtable, hwdistinct, hwshows⟩ :=
    applySearch_ok p pairs hs (v := v) (by rw [htable]; exact ht)
  rw [hw] at hw'
  cases hw'
  refine ⟨hwtable.trans htable, ?_, fun row hr => ?_⟩
  · rw [hwdistinct, hdistinct, Dataset.filters_request_isEmpty]
    exact Bool.false_or _
  · have hschema : (View.ofTable t).table.schema = d.schema := ht
    rw [hwshows row hr, hshows row (ht ▸ hr), Schema.Shows, hschema]
    simp only [View.shows_ofTable, true_and, Dataset.mem_filters_request, mem_toOption_iff, and_imp,
      Search.terms, Search.query, Dataset.get?_request, searchTerms]

/-- Without a free-text query the search stage leaves a view as it is. -/
lemma applySearch_eq_self (p : Pipeline) (h : lastValue? pairs p.config.searchParam = none)
    (catalog : Except FilterError (Catalog Field)) (v : View) :
    p.applySearch (d.request pairs) catalog v = .ok v := by
  have hterms : Search.terms p.config (d.request pairs) = [] := by
    rw [Search.terms, Search.query, Dataset.get?_request, h]
    simp [SearchTerms.parse, SearchTerms.read, SearchTerms.pieces]
  rw [applySearch, Search.compile, Search.needsCatalog, hterms]
  rfl

/-- The terms that a view is ordered by are those of the query. -/
lemma effective_request {sortable : Option (List String)} {primaryKey : String}
    {ts : List OrderTerm} (h : Sorting.effective config (d.request pairs)
      ((d.request pairs).keyCatalog sortable) primaryKey = .ok ts) :
    ts = Sorting.withKey primaryKey ((((lastValue? pairs config.orderingParam).map
      Text.itemStrings).getD []).map OrderTerm.parse) := by
  obtain ⟨asked, hasked, rfl⟩ := map_ok_iff.mp h
  obtain ⟨rfl, -⟩ := Sorting.terms_ok rfl (fun c hc => Sorting.plain_request hc) hasked
  rw [Sorting.requested, Dataset.get?_request]

/-- The cities with a name in which two terms are found, in descending order: a part of the name and the
number. -/
def namedCities : List (String × String) :=
  [("name", "isnull:0"), ("q", "om 2"), ("ordering", "-id")]

end Pipeline

end RowQuery
