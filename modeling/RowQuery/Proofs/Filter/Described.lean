import RowQuery.Description
import RowQuery.Proofs.Catalog.OwnFields
import RowQuery.Proofs.Pipeline.Sieves
import RowQuery.Proofs.Table.Loading

/-!
The filters that a description reports as active, and the clauses that are made of the same request. A
description goes through the catalog and asks for the parameter of each field, and compiling goes through
the parameters and asks the catalog for their fields. They agree on every parameter that is taken for a
filter: `described_filters`. Ignored parameters are no filters, and a description that does not ask about
this reports the field that is named like one.
-/

namespace RowQuery

open Outcome

/-- A name has a last value iff it has one at all. -/
lemma exists_lastValue?_iff {pairs : List (String × String)} {name : String} :
    (∃ e, lastValue? pairs name = some e) ↔ ∃ e, (name, e) ∈ pairs := by
  rw [← Option.isSome_iff_exists, lastValue?, Option.isSome_map, List.getLast?_isSome]
  constructor
  · intro h
    obtain ⟨⟨n, e⟩, hx⟩ := List.exists_mem_of_ne_nil _ h
    obtain ⟨hmem, hn⟩ := List.mem_filter.mp hx
    obtain rfl : n = name := by simpa using hn
    exact ⟨e, hmem⟩
  · rintro ⟨e, hmem⟩
    exact List.ne_nil_of_mem (List.mem_filter.mpr ⟨hmem, beq_self_eq_true name⟩)

variable {config : Config} {r : Request} {catalog : Catalog Field} {pairs : List (String × String)}
  {f : Filter}

/-- A clause is one for the field of the name that it is compiled under. -/
lemma Clause.field_of_compile {name text : String} {c : Clause}
    (h : compile catalog name text = .ok c) : c.field = name ∧ name ∈ catalog.names := by
  obtain ⟨field, hfield, h⟩ := bind_ok_iff.mp h
  obtain ⟨e, -, h⟩ := bind_ok_iff.mp h
  obtain ⟨p, -, h⟩ := bind_ok_iff.mp h
  cases h
  obtain ⟨hmem, hname⟩ := Catalog.get?_some (Catalog.require_ok_iff.mp hfield)
  exact ⟨hname, List.mem_map.mpr ⟨field, hmem, hname⟩⟩

namespace Filter

/-- A description reports the last value of each parameter that is named like a field. -/
lemma mem_active_iff {x : String × String} : x ∈ active r catalog ↔
    x.1 ∈ catalog.names ∧ r.params.get? x.1 = some x.2 := by
  obtain ⟨name, e⟩ := x
  simp only [active, List.mem_filterMap, Option.map_eq_some_iff, Catalog.names, List.mem_map,
    Prod.mk.injEq]
  constructor
  · rintro ⟨field, hfield, _, hget, rfl, rfl⟩
    exact ⟨⟨field, hfield, rfl⟩, hget⟩
  · rintro ⟨⟨field, hfield, rfl⟩, hget⟩
    exact ⟨field, hfield, e, hget, rfl, rfl⟩

/-- The clauses are those for the parameters that are not ignored, all of which name fields. -/
lemma exists_clause_iff (h : compile config (r.withPairs pairs) (.ok catalog) = .ok f) {name : String} :
    (∃ c ∈ f.clauses, c.field = name) ↔
      (∃ e, (name, e) ∈ pairs) ∧ name ∈ catalog.names ∧ r.isIgnored config name = false := by
  have hall := mapM_ok_iff.mp (compile_ok_iff.mp h)
  constructor
  · rintro ⟨c, hc, rfl⟩
    obtain ⟨x, hx, hcompile⟩ := exists_of_mem_right hall c hc
    obtain ⟨hfield, hname⟩ := Clause.field_of_compile hcompile
    obtain ⟨hmem, hignored⟩ := Request.mem_filters_withPairs.mp hx
    rw [hfield]
    exact ⟨⟨x.2, hmem⟩, hname, hignored⟩
  · rintro ⟨⟨e, hmem⟩, -, hignored⟩
    obtain ⟨c, hc, hcompile⟩ :=
      exists_of_mem_left hall (name, e) (Request.mem_filters_withPairs.mpr ⟨hmem, hignored⟩)
    exact ⟨c, hc, (Clause.field_of_compile hcompile).1⟩

/-- Where the fields of a request are known and its filters compile, the filters that its description
reports are the last values given for the fields, and the fields of the compiled clauses are those
reported but for the ones that are named like an ignored parameter. -/
theorem described_filters (hcatalog : r.fieldCatalog = .ok catalog) (hne : catalog.entries ≠ [])
    (hf : compile config (r.withPairs pairs) (r.withPairs pairs).fieldCatalog = .ok f) :
    ∃ fields active, describe (r.withPairs pairs) catalog = some (.filters fields active) ∧
      (∀ name, (∃ c ∈ f.clauses, c.field = name) ↔
        (∃ e, (name, e) ∈ active) ∧ r.isIgnored config name = false) ∧
      ∀ name e, (name, e) ∈ active ↔ name ∈ catalog.names ∧ lastValue? pairs name = some e := by
  have hactive (name e : String) : (name, e) ∈ active (r.withPairs pairs) catalog ↔
      name ∈ catalog.names ∧ lastValue? pairs name = some e := by
    rw [mem_active_iff, Request.get?_withPairs]
  have hcompile : compile config (r.withPairs pairs) (.ok catalog) = .ok f := by
    rw [← hf]
    exact congrArg _ hcatalog.symm
  refine ⟨catalog.entries.map Field.summary, active (r.withPairs pairs) catalog, ?_, fun name => ?_,
    hactive⟩
  · rw [describe, if_neg (by simpa using hne)]
  · simp only [exists_clause_iff hcompile, hactive, exists_and_left, exists_lastValue?_iff]
    tauto

/-- The cities, filtered by number twice, on some page. -/
theorem cities_described_filters :
    let r := Dataset.cities.request []
    let pairs := [("id", "ge:1"), ("page", "2"), ("id", "le:2")]
    ∃ catalog f, r.fieldCatalog = .ok catalog ∧ catalog.entries ≠ [] ∧
      compile .usual (r.withPairs pairs) (r.withPairs pairs).fieldCatalog = .ok f ∧
      ∃ fields active, describe (r.withPairs pairs) catalog = some (.filters fields active) ∧
        (∀ name, (∃ c ∈ f.clauses, c.field = name) ↔
          (∃ e, (name, e) ∈ active) ∧ r.isIgnored .usual name = false) ∧
        ∀ name e, (name, e) ∈ active ↔ name ∈ catalog.names ∧ lastValue? pairs name = some e := by
  intro r pairs
  have hcatalog := Dataset.fieldCatalog_request (d := Dataset.cities) [] (by decide)
  have hne : Field.ofSchema Dataset.cities.schema ≠ [] := List.cons_ne_nil _ _
  obtain ⟨f, hf⟩ : ∃ f, compile .usual (r.withPairs pairs) (r.withPairs pairs).fieldCatalog = .ok f :=
    ⟨_, rfl⟩
  exact ⟨_, f, hcatalog, hne, hf, described_filters hcatalog hne hf⟩

end Filter

/-- A table of prints, each on a page. -/
def Dataset.prints : Dataset where
  schema := ⟨"prints", "id", [⟨"id", .autoId⟩, ⟨"page", .integer⟩]⟩
  rows := []

/-- The page of a list is reported as a filter of the prints by their page, and no clause is made of it. -/
theorem Filter.prints_described_unfiltered :
    let r := Dataset.prints.request [("page", "2")]
    ∃ catalog f, r.fieldCatalog = .ok catalog ∧ catalog.entries ≠ [] ∧
      compile .usual r r.fieldCatalog = .ok f ∧
      ∃ fields active, describe r catalog = some (.filters fields active) ∧
        (∃ e, ("page", e) ∈ active) ∧ ¬∃ c ∈ f.clauses, c.field = "page" := by
  intro r
  refine ⟨_, _, rfl, List.cons_ne_nil _ _, rfl, _, _, rfl, ⟨"2", List.mem_singleton_self _⟩, ?_⟩
  rintro ⟨c, hc, -⟩
  cases hc

end RowQuery
