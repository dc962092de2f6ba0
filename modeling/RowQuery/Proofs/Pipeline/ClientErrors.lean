import RowQuery.Proofs.Filter.OwnFields
import RowQuery.Proofs.Pipeline.Twins
import RowQuery.Proofs.Search.OwnFields
import RowQuery.Proofs.Sorting.OwnKeys

/-!
Who is to blame for a request that fails. A list over the fields that a table gives by itself refuses
a request only with an error that blames the request: each comparison and each sort term names a
column of the table, so the store can only refuse an operand, and that is reported against the field.
Whether a request fails does not depend on the rows.
-/

namespace RowQuery

open Outcome

namespace Pipeline

variable {d : Dataset} {t : Table} {v w : View} {e : FilterError}
  {pairs : List (String × String)}

/-- The filter stage refuses a view with an error that blames the request. -/
lemma applyFilter_isValidation (p : Pipeline) (hs : d.schema.Distinct)
    (hv : v.table.schema = d.schema)
    (h : p.applyFilter (d.request pairs) (d.request pairs).fieldCatalog v = .error e) :
    e.isValidation = true := by
  rw [Dataset.fieldCatalog_request pairs hs, ← hv] at h
  obtain h | ⟨f, hf, h⟩ := bind_error_iff.mp h
  · exact Filter.compile_isValidation h
  · exact Filter.apply_isValidation (hv ▸ hs) hf h

/-- The search stage never fails, and it narrows a view to the rows in which each term is found. -/
lemma applySearch_ok (p : Pipeline) (pairs : List (String × String)) (hs : d.schema.Distinct)
    (hv : v.table.schema = d.schema) :
    ∃ w, p.applySearch (d.request pairs) (d.request pairs).fieldCatalog v = .ok w ∧
      w.table = v.table ∧ w.distinct = v.distinct ∧
      ∀ row, d.schema.Admits row → (w.shows row = true ↔ v.shows row = true ∧
        ∀ term ∈ Search.terms p.config (d.request pairs),
          ∃ x ∈ d.schema.columns.zip row, Search.finds term x.1.kind x.2 = true) := by
  rw [Dataset.fieldCatalog_request pairs hs, applySearch, Search.compile_eq, ← hv]
  exact Search.apply_outcome p.config v (hv ▸ hs) _

/-- The last stage refuses a view with an error that blames the request. -/
lemma applySort_isValidation (config : Config) (hs : d.schema.Distinct)
    (ht : d.table = .ok t) (hv : v.table.schema = d.schema)
    (h : applySort ⟨config, none⟩ (d.request pairs) ((d.request pairs).keyCatalog none) v =
      .error e) : e.isValidation = true := by
  rw [Dataset.keyCatalog_request pairs hs] at h
  obtain h | ⟨ts, hts, h⟩ := bind_error_iff.mp h
  · exact Sorting.effective_isValidation h
  · obtain ⟨asked, hasked, rfl⟩ := map_ok_iff.mp hts
    obtain ⟨-, hkey, -⟩ := Dataset.table_ok_iff.mp ht
    obtain ⟨-, hcolumns⟩ := Sorting.terms_ok rfl
      (fun c hc => Except.ok.inj hc ▸ Sorting.plain_ofSchema d.schema) hasked
    obtain ⟨w, hw⟩ : ∃ w, Sorting.apply
        (Sorting.withKey (DataSource.primaryKey v) asked) v = .ok w := by
      refine Sorting.exists_apply_withKey (hv ▸ hkey) fun term hterm => ?_
      obtain ⟨c, hc, k, hk, hn⟩ := hcolumns term hterm
      cases hc
      obtain ⟨c, hc, -, rfl⟩ := SortKey.mem_ofSchema.mp hk
      exact ⟨c, hv ▸ hc, hn⟩
    rw [hw] at h
    cases h

/-- Over the fields and sort keys that a table gives by itself, a request that fails is itself to
blame, its free-text query never makes it fail, and whether it fails and why does not depend on the
rows of the table. -/
theorem errors_blame_request (hs : d.schema.Distinct) (ht : d.table = .ok t) (config : Config)
    (pairs : List (String × String)) :
    (∀ e, apply ⟨config, none⟩ (d.request pairs) (View.ofTable t) = .error e →
      e.isValidation = true) ∧
    (∀ v : View, v.table = t →
      ∃ w, applySearch ⟨config, none⟩ (d.request pairs) (d.request pairs).fieldCatalog v =
        .ok w) ∧
    ∀ (d' : Dataset) (t' : Table), d'.schema = d.schema → d'.table = .ok t' →
      ∀ e, apply ⟨config, none⟩ (d.request pairs) (View.ofTable t) = .error e ↔
        apply ⟨config, none⟩ (d'.request pairs) (View.ofTable t') = .error e := by
  obtain ⟨hschema, -, -⟩ := Dataset.table_ok_iff.mp ht
  refine ⟨fun e h => ?_, fun v hv => ?_, fun d' t' hd' ht' e => ?_⟩
  · obtain h | ⟨v, hv, h⟩ := bind_error_iff.mp h
    · exact applyFilter_isValidation _ hs hschema h
    · have htable := applyFilter_table _ hv
      have hv : v.table.schema = d.schema := by
        rw [htable]
        exact hschema
      obtain ⟨w, hw, hwt, -, -⟩ := applySearch_ok ⟨config, none⟩ pairs hs hv
      -- The search stage has a result, so the error is one of the last stage.
      obtain h | ⟨w', hw', h⟩ := bind_error_iff.mp h
      · rw [hw] at h
        cases h
      · rw [hw] at hw'
        cases hw'
        exact applySort_isValidation config hs ht (hwt ▸ hv) h
  · obtain ⟨w, hw, -⟩ := applySearch_ok ⟨config, none⟩ pairs hs (v := v) (by
      rw [hv]
      exact hschema)
    exact ⟨w, hw⟩
  · obtain ⟨hschema', -, -⟩ := Dataset.table_ok_iff.mp ht'
    have hr : d'.request pairs = d.request pairs := by
      rw [Dataset.request, Dataset.request, Dataset.output, Dataset.output, hd']
    rw [hr]
    exact (apply_twins _ _ (View.ofTable_twins (by rw [hschema, hschema', hd']))).error_iff

/-- A request for cities, with an operator that does not exist and a number with leading zeros to
search for. -/
theorem cities_errors_blame_request :
    Dataset.cities.schema.Distinct ∧ ∃ t, Dataset.cities.table = .ok t ∧
      (∀ e, apply ⟨.usual, none⟩ (Dataset.cities.request [("id", "near:1"), ("q", "007")])
        (View.ofTable t) = .error e → e.isValidation = true) ∧
      (∀ v : View, v.table = t → ∃ w, applySearch ⟨.usual, none⟩
        (Dataset.cities.request [("id", "near:1"), ("q", "007")])
        (Dataset.cities.request [("id", "near:1"), ("q", "007")]).fieldCatalog v = .ok w) ∧
      ∀ (d' : Dataset) (t' : Table), d'.schema = Dataset.cities.schema → d'.table = .ok t' →
        ∀ e, apply ⟨.usual, none⟩ (Dataset.cities.request [("id", "near:1"), ("q", "007")])
            (View.ofTable t) = .error e ↔
          apply ⟨.usual, none⟩ (d'.request [("id", "near:1"), ("q", "007")]) (View.ofTable t') =
            .error e :=
  ⟨by decide, _, Dataset.cities_table,
    errors_blame_request (by decide) Dataset.cities_table .usual [("id", "near:1"), ("q", "007")]⟩

end Pipeline

end RowQuery
