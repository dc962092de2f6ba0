import RowQuery.Proofs.Pipeline.Sieves
import RowQuery.Proofs.Table.Loading

/-!
Filters that are given in another order, or more than once. A request asks for the rows that each of its
filters admits, so it is settled by the set of them: `filterSieve_congr` says this of the sieve that they
make, and `answer_congr` of the rows in the end. Only the error may be another one, since the first filter
that is wrong is reported.
-/

namespace RowQuery.Pipeline

open Outcome

variable {p : Pipeline} {r r' : Request} {s : Schema}

/-- Requests over one catalog with the same set of filters make sieves that let the same rows through,
unless neither makes a sieve. -/
lemma filterSieve_congr (hstep : r.filterStep s = r'.filterStep s)
    (h : ∀ x, x ∈ r.filters p.config ↔ x ∈ r'.filters p.config) :
    (∃ e e', p.filterSieve r s = .error e ∧ p.filterSieve r' s = .error e') ∨
      ∃ a a', p.filterSieve r s = .ok a ∧ p.filterSieve r' s = .ok a' ∧ a.distinct = a'.distinct ∧
        ∀ row, a.admits row = a'.admits row := by
  have hboth : (∃ a, p.filterSieve r s = .ok a) ↔ ∃ a, p.filterSieve r' s = .ok a := by
    rw [exists_filterSieve_iff, exists_filterSieve_iff, hstep]
    exact forall_congr' fun x => imp_congr_left (h x)
  cases ha : p.filterSieve r s with
  | error e =>
    cases ha' : p.filterSieve r' s with
    | error e' => exact .inl ⟨e, e', rfl, rfl⟩
    | ok a' =>
      obtain ⟨a, hok⟩ := hboth.mpr ⟨a', ha'⟩
      rw [ha] at hok
      cases hok
  | ok a =>
    obtain ⟨a', ha'⟩ := hboth.mp ⟨a, ha⟩
    refine .inr ⟨a, a', rfl, ha', ?_, fun row => ?_⟩
    · have hempty : (r.filters p.config).isEmpty = (r'.filters p.config).isEmpty := by
        rw [Bool.eq_iff_iff, List.isEmpty_iff, List.isEmpty_iff, List.eq_nil_iff_forall_not_mem,
          List.eq_nil_iff_forall_not_mem]
        exact forall_congr' fun x => not_congr (h x)
      rw [filterSieve_distinct ha, filterSieve_distinct ha', hempty]
    · rw [Bool.eq_iff_iff, filterSieve_admits ha, filterSieve_admits ha', hstep]
      exact forall_congr' fun x => imp_congr_left (h x)

/-- Two requests that differ in their parameters alone, with the same set of filters, the same free-text
query and the same order, both fail, or they show the same rows in the same order. -/
theorem answer_congr (p : Pipeline) (r : Request) (v : View) {pairs pairs' : List (String × String)}
    (hf : ∀ x, r.isIgnored p.config x.1 = false → (x ∈ pairs ↔ x ∈ pairs'))
    (hq : lastValue? pairs p.config.searchParam = lastValue? pairs' p.config.searchParam)
    (ho : lastValue? pairs p.config.orderingParam = lastValue? pairs' p.config.orderingParam) :
    (∃ e e', p.apply (r.withPairs pairs) v = .error e ∧
      p.apply (r.withPairs pairs') v = .error e') ∨
    ∃ w w', p.apply (r.withPairs pairs) v = .ok w ∧ p.apply (r.withPairs pairs') v = .ok w' ∧
      w.rows = w'.rows := by
  have hfilters (x : String × String) : x ∈ (r.withPairs pairs).filters p.config ↔
      x ∈ (r.withPairs pairs').filters p.config := by
    rw [Request.mem_filters_withPairs, Request.mem_filters_withPairs]
    exact and_congr_left (hf x)
  have hstep : (r.withPairs pairs).filterStep v.table.schema =
      (r.withPairs pairs').filterStep v.table.schema := rfl
  rw [apply_eq, apply_eq, searchSieve_congr hq, places_congr ho]
  obtain ⟨e, e', ha, ha'⟩ | ⟨a, a', ha, ha', hdistinct, hadmits⟩ := filterSieve_congr hstep hfilters
  · rw [ha, ha']
    exact .inl ⟨e, e', rfl, rfl⟩
  · rw [ha, ha']
    -- What follows is one computation, over views that show the same rows.
    show (∃ e e', (p.searchSieve (r.withPairs pairs') v.table.schema >>= _) = .error e ∧
      (p.searchSieve (r.withPairs pairs') v.table.schema >>= _) = .error e') ∨ _
    cases p.searchSieve (r.withPairs pairs') v.table.schema with
    | error e => exact .inl ⟨e, e, rfl, rfl⟩
    | ok b =>
      cases p.places (r.withPairs pairs') v.table.schema with
      | error e => exact .inl ⟨e, e, rfl, rfl⟩
      | ok cs =>
        refine .inr ⟨_, _, rfl, rfl, View.rows_congr rfl ?_ rfl fun row => ?_⟩
        · show (v.distinct || a.distinct || b.distinct) = (v.distinct || a'.distinct || b.distinct)
          rw [hdistinct]
        · show ((v.sift a).sift b).shows row = ((v.sift a').sift b).shows row
          rw [View.shows_sift, View.shows_sift, View.shows_sift, View.shows_sift, hadmits]

/-- Two filters on cities, one of them given twice and behind the order. -/
theorem cities_answer_congr : ∃ t, Dataset.cities.table = .ok t ∧
    (let r : Request := { params := .empty, output := Dataset.cities.output }
     let pairs := [("id", "ge:1"), ("name", "unlike:x"), ("ordering", "-name")]
     let pairs' := [("name", "unlike:x"), ("ordering", "id"), ("id", "ge:1"), ("ordering", "-name"),
      ("name", "unlike:x")]
     (∀ x, r.isIgnored .usual x.1 = false → (x ∈ pairs ↔ x ∈ pairs')) ∧
     lastValue? pairs "q" = lastValue? pairs' "q" ∧
     lastValue? pairs "ordering" = lastValue? pairs' "ordering" ∧
     ((∃ e e', apply ⟨.usual, none⟩ (r.withPairs pairs) (View.ofTable t) = .error e ∧
        apply ⟨.usual, none⟩ (r.withPairs pairs') (View.ofTable t) = .error e') ∨
      ∃ w w', apply ⟨.usual, none⟩ (r.withPairs pairs) (View.ofTable t) = .ok w ∧
        apply ⟨.usual, none⟩ (r.withPairs pairs') (View.ofTable t) = .ok w' ∧ w.rows = w'.rows)) := by
  have hf (x : String × String)
      (hx : Request.isIgnored { params := .empty, output := Dataset.cities.output } .usual x.1 =
        false) :
      x ∈ [("id", "ge:1"), ("name", "unlike:x"), ("ordering", "-name")] ↔
        x ∈ [("name", "unlike:x"), ("ordering", "id"), ("id", "ge:1"), ("ordering", "-name"),
          ("name", "unlike:x")] := by
    have hordering : x ≠ ("ordering", "id") := by
      rintro rfl
      exact absurd hx (by decide)
    simp only [List.mem_cons, List.not_mem_nil, or_false, hordering, false_or]
    tauto
  exact ⟨_, Dataset.cities_table, hf, by decide, by decide,
    answer_congr ⟨.usual, none⟩ _ _ hf (by decide) (by decide)⟩

end RowQuery.Pipeline
