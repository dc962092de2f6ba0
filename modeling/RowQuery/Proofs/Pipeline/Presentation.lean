import RowQuery.Proofs.Pipeline.Answer
import RowQuery.Proofs.Pipeline.Sieves
import RowQuery.Proofs.Table.Sorted

/-!
The parameters that say how rows are presented: their order and the fields to show. Where they are not taken
for filters, they do not change which rows a request selects (`selects_alike`): both sieves of the request
are those of its other parameters, and the order only moves the rows that have gone through them.
-/

namespace RowQuery

open Outcome

/-- Ignored parameters do not count for the filters. -/
lemma Request.filters_without {r : Request} {config : Config} {names : List String}
    (h : ∀ name ∈ names, r.isIgnored config name = true) (params : Params) :
    filters { r with params := params.without names } config =
      filters { r with params := params } config := by
  show ((params.without names).occurrences.filter fun x => !r.isIgnored config x.1) =
    params.occurrences.filter fun x => !r.isIgnored config x.1
  rw [Params.occurrences_without, List.filter_filter]
  refine List.filter_congr fun x _ => ?_
  by_cases hx : x.1 ∈ names
  · simp [h x.1 hx]
  · simp [hx]

namespace Pipeline

variable {p : Pipeline} {r : Request} {s : Schema} {params params' : Params}

/-- Ignored parameters but the one of the free-text query do not settle the sieves. -/
lemma sieves_of_without {names : List String} (hsearch : p.config.searchParam ∉ names)
    (hignored : ∀ name ∈ names, r.isIgnored p.config name = true)
    (h : params.without names = params'.without names) :
    p.filterSieve { r with params := params } s = p.filterSieve { r with params := params' } s ∧
      p.searchSieve { r with params := params } s =
        p.searchSieve { r with params := params' } s := by
  constructor
  · refine filterSieve_of_filters ?_
    rw [← Request.filters_without hignored params, h, Request.filters_without hignored params']
  · refine searchSieve_of_query ?_
    rw [← Params.get?_without hsearch, h, Params.get?_without hsearch]

/-- Two requests whose parameters differ only in the order that they ask for and the fields that they choose,
both of them ignored as filters, select the same rows if they succeed: one answer is a permutation of the
other. If they ask for the same order, they succeed or fail alike, and with one answer or one error. -/
theorem selects_alike (p : Pipeline) (r : Request) (v : View) {params params' : Params}
    (hordering : p.config.searchParam ≠ p.config.orderingParam)
    (hfields : p.config.searchParam ≠ p.config.fieldsParam)
    (hignored : ∀ name ∈ [p.config.orderingParam, p.config.fieldsParam],
      r.isIgnored p.config name = true)
    (h : params.without [p.config.orderingParam, p.config.fieldsParam] =
      params'.without [p.config.orderingParam, p.config.fieldsParam]) :
    let answer (params : Params) := p.apply { r with params := params } v
    (∀ w w', answer params = .ok w → answer params' = .ok w' → w.rows.Perm w'.rows) ∧
    (params.get? p.config.orderingParam = params'.get? p.config.orderingParam →
      answer params = answer params') := by
  intro answer
  have hsearch : p.config.searchParam ∉ [p.config.orderingParam, p.config.fieldsParam] := by
    simp [hordering, hfields]
  obtain ⟨hfilter, hquery⟩ := sieves_of_without (s := v.table.schema) hsearch hignored h
  constructor
  · intro w w' hw hw'
    obtain ⟨a, b, cs, ha, hb, -, rfl⟩ := apply_ok_iff.mp hw
    obtain ⟨a', b', cs', ha', hb', -, rfl⟩ := apply_ok_iff.mp hw'
    obtain rfl : a = a' := Except.ok.inj (ha.symm.trans (hfilter.trans ha'))
    obtain rfl : b = b' := Except.ok.inj (hb.symm.trans (hquery.trans hb'))
    -- Both answers sort what is selected by the two sieves.
    exact (stableSort_perm _ _).trans (stableSort_perm _ ((v.sift a).sift b).selected).symm
  · intro hlast
    have hplaces := places_of_ordering (p := p) (r := r) (s := v.table.schema) hlast
    show p.apply _ v = p.apply _ v
    rw [apply_eq, apply_eq, hfilter, hquery, hplaces]

/-- The cities with a number from one, in two orders and once with a choice of fields, and in one order that
is given in two ways. -/
theorem cities_select_alike :
    let r := Dataset.cities.request []
    let byName := Params.ofPairs [("ordering", "-name"), ("id", "ge:1"), ("fields", "id")]
    let byNumber := Params.ofPairs [("id", "ge:1"), ("ordering", "id")]
    let byLast := Params.ofPairs [("ordering", "name"), ("id", "ge:1"), ("ordering", "id")]
    (∀ name ∈ ["ordering", "fields"], r.isIgnored .usual name = true) ∧
    byName.without ["ordering", "fields"] = byNumber.without ["ordering", "fields"] ∧
    byLast.without ["ordering", "fields"] = byNumber.without ["ordering", "fields"] ∧
    byLast.get? "ordering" = byNumber.get? "ordering" ∧
    ∃ t w w', Dataset.cities.table = .ok t ∧
      apply ⟨.usual, none⟩ { r with params := byName } (View.ofTable t) = .ok w ∧
      apply ⟨.usual, none⟩ { r with params := byNumber } (View.ofTable t) = .ok w' ∧
      w.rows.Perm w'.rows ∧
      apply ⟨.usual, none⟩ { r with params := byLast } (View.ofTable t) =
        apply ⟨.usual, none⟩ { r with params := byNumber } (View.ofTable t) := by
  intro r byName byNumber byLast
  have hignored : ∀ name ∈ ["ordering", "fields"], r.isIgnored .usual name = true := by decide
  have hname : byName.without ["ordering", "fields"] = byNumber.without ["ordering", "fields"] := by
    rw [Params.without_ofPairs, Params.without_ofPairs]
    rfl
  have hlast : byLast.without ["ordering", "fields"] = byNumber.without ["ordering", "fields"] := by
    rw [Params.without_ofPairs, Params.without_ofPairs]
    rfl
  have hget : byLast.get? "ordering" = byNumber.get? "ordering" := rfl
  have happly : ∃ w w',
      apply ⟨.usual, none⟩ { r with params := byName }
        (View.ofTable ⟨Dataset.cities.schema, [[.int 2, .string "Rome"], [.int 1, .null]]⟩) = .ok w ∧
      apply ⟨.usual, none⟩ { r with params := byNumber }
        (View.ofTable ⟨Dataset.cities.schema, [[.int 2, .string "Rome"], [.int 1, .null]]⟩) = .ok w' :=
    ⟨_, _, bind_ok_iff.mpr ⟨_, rfl, bind_ok_iff.mpr
        ⟨_, applySearch_eq_self (d := Dataset.cities) _ rfl _ _, rfl⟩⟩,
      bind_ok_iff.mpr ⟨_, rfl, bind_ok_iff.mpr
        ⟨_, applySearch_eq_self (d := Dataset.cities) _ rfl _ _, rfl⟩⟩⟩
  obtain ⟨w, w', hw, hw'⟩ := happly
  have hperm := (selects_alike ⟨.usual, none⟩ r _ (by decide) (by decide) hignored hname).1 w w' hw hw'
  have hsame := fun v ↦
    (selects_alike ⟨.usual, none⟩ r v (by decide) (by decide) hignored hlast).2 hget
  exact ⟨hignored, hname, hlast, hget, _, w, w', Dataset.cities_table, hw, hw', hperm, hsame _⟩

end Pipeline

end RowQuery
