import RowQuery.Proofs.Catalog.OwnFields
import RowQuery.Proofs.Numeric.Digits
import RowQuery.Proofs.Predicate.Lookups
import RowQuery.Proofs.Query.Meaning
import RowQuery.Proofs.Table.Steps

/-!
Free-text search over the fields that a table gives by itself. Each term becomes one comparison for
each column that can hold it, and every comparison is ready: a part of a text always, a number because
only what an integer column can hold is taken for one (`made_of_column`). So the search stage never
fails, and it shows the rows in which each term is found.
-/

namespace RowQuery.Search

open Outcome Predicate CellTest

variable {s : Schema} {term : String}

/-- A number is read by an integer column as itself: it has no blanks to trim. -/
lemma exists_of_isNumber (h : isNumber term = true) :
    ∃ n, Numeric.parseInt64? term = some n ∧
      Numeric.readInt64? (Text.trim term.toList) = some n := by
  simp only [isNumber, Bool.and_eq_true] at h
  obtain ⟨⟨-, hdigits⟩, hread⟩ := h
  obtain ⟨n, hn⟩ := Option.isSome_iff_exists.mp hread
  have htrim : Text.trim term.toList = term.toList :=
    Text.trim_eq_self fun c hc => Numeric.isBlank_of_isDigit (List.all_eq_true.mp hdigits c hc)
  exact ⟨n, hn, by rw [htrim]; exact hn⟩

/-- The comparison that looks for a term in a column. -/
def comparisonFor? (kind : ColumnKind) (term : String) : Option Comparison :=
  kind.datatype?.bind fun t => comparison? t term

/-- The comparison for a column is ready, and the cells that pass it are those that hold the term. -/
lemma made_of_column {kind : ColumnKind} {c : Comparison} (h : comparisonFor? kind term = some c) :
    ∃ test, Made kind c (.scalar term) test ∧
      ∀ cell, kind.Admits cell → test.holds cell = finds term kind cell := by
  cases kind with
  | char | text =>
    cases h
    exact ⟨_, .contains, fun cell _ => holds_contains cell term⟩
  | integer | autoId =>
    obtain ⟨hnum, hc⟩ := Option.ite_none_right_eq_some.mp h
    cases hc
    obtain ⟨n, hparse, hread⟩ := exists_of_isNumber hnum
    have hv : (Numeric.readInt64? (Text.trim term.toList)).map Value.int = some (.int n) := by
      rw [hread]; rfl
    refine ⟨_, .exact hv, fun cell hc => ?_⟩
    have hsame : cell.same (.int n) = decide (cell = .int n) := by
      cases cell <;> simp [Value.same]
    simp only [isNumber, Bool.and_eq_true] at hnum
    simp only [holds_exact hc (.integer n), hsame, finds, hparse, hnum.1.1, hnum.1.2,
      Option.any_some, Bool.true_and]
  | float | decimal | boolean | nullBoolean | date | dateTime | relation => cases h

/-- A column without a comparison holds no term. -/
lemma finds_of_none {kind : ColumnKind} (h : comparisonFor? kind term = none) (cell : Value) :
    finds term kind cell = false := by
  cases kind with
  | char | text => cases h
  | integer | autoId =>
    have hnum : ¬ isNumber term = true := fun hnum => by
      simp [comparisonFor?, ColumnKind.datatype?, comparison?, hnum] at h
    rw [Bool.eq_false_iff]
    intro hf
    refine hnum ?_
    simp only [finds, Bool.and_eq_true, Option.any_eq_true] at hf
    obtain ⟨hdigits, n, hn, -⟩ := hf
    simp only [isNumber, Bool.and_eq_true, hn]
    exact ⟨hdigits, rfl⟩
  | float | decimal | boolean | nullBoolean | date | dateTime | relation => rfl

/-- A term is looked for in each column that has a comparison for it. -/
lemma mem_group {p : Predicate} : p ∈ group ⟨Field.ofSchema s⟩ term ↔
    ∃ c ∈ s.columns, ∃ comparison, comparisonFor? c.kind term = some comparison ∧
      p = .lookup ⟨c.name, comparison, .scalar term⟩ := by
  simp only [group, searched, List.mem_filterMap, List.mem_filter, Field.mem_ofSchema]
  constructor
  · rintro ⟨f, ⟨⟨c, hc, t, ht, rfl⟩, -⟩, h⟩
    obtain ⟨comparison, hcmp, h⟩ := Option.bind_eq_some_iff.mp h
    cases h
    exact ⟨c, hc, comparison, by rw [comparisonFor?, ht]; exact hcmp, rfl⟩
  · rintro ⟨c, hc, comparison, hcmp, rfl⟩
    obtain ⟨t, ht, hcmp⟩ := Option.bind_eq_some_iff.mp hcmp
    refine ⟨_, ⟨⟨c, hc, t, ht, rfl⟩, rfl⟩, ?_⟩
    exact Option.bind_eq_some_iff.mpr ⟨comparison, hcmp, rfl⟩

/-- The conditions for a term are ready. -/
lemma ready_group (hs : s.Distinct) : ∀ p ∈ group ⟨Field.ofSchema s⟩ term, Ready s p := by
  intro p hp
  obtain ⟨c, hc, comparison, hcmp, rfl⟩ := mem_group.mp hp
  obtain ⟨test, hm, -⟩ := made_of_column hcmp
  exact ready_lookup hs hc hm

/-- Some condition for a term holds for a row iff some cell of the row holds the term. -/
lemma says_group (hs : s.Distinct) {row : Row} (hr : s.Admits row) :
    Says s (.any (group ⟨Field.ofSchema s⟩ term)) row ↔
      ∃ x ∈ s.columns.zip row, finds term x.1.kind x.2 = true := by
  rw [says_any (ready_group hs)]
  constructor
  · rintro ⟨p, hp, hsays⟩
    obtain ⟨c, hc, comparison, hcmp, rfl⟩ := mem_group.mp hp
    obtain ⟨test, hm, hfinds⟩ := made_of_column hcmp
    obtain ⟨x, hx, rfl, htest⟩ := (says_lookup hs hc hm).mp hsays
    exact ⟨x, hx, by rw [← hfinds x.2 (hr.of_mem_zip hx)]; exact htest⟩
  · rintro ⟨x, hx, hf⟩
    have hc : x.1 ∈ s.columns := (List.of_mem_zip hx).1
    cases hcmp : comparisonFor? x.1.kind term with
    | none =>
      rw [finds_of_none hcmp] at hf
      cases hf
    | some comparison =>
      obtain ⟨test, hm, hfinds⟩ := made_of_column hcmp
      refine ⟨_, mem_group.mpr ⟨x.1, hc, comparison, hcmp, rfl⟩, (says_lookup hs hc hm).mpr ?_⟩
      exact ⟨x, hx, rfl, by rw [hfinds x.2 (hr.of_mem_zip hx)]; exact hf⟩

/-- What a query asks for, its terms being looked for in the fields of a catalog. -/
def outcome (catalog : Catalog Field) (terms : List String) : SearchOutcome :=
  if terms.isEmpty then .everything
  else if (terms.map (group catalog)).any List.isEmpty then .nothing
  else .rows (.all ((terms.map (group catalog)).map Predicate.any))

lemma compile_eq (config : Config) (r : Request) (catalog : Catalog Field) :
    compile config r (.ok catalog) = .ok (outcome catalog (terms config r)) := by
  rw [compile, outcome, needsCatalog]
  cases (terms config r).isEmpty with
  | true => rfl
  | false =>
    simp only [Bool.not_false, if_true, bind, Except.bind]
    split <;> rfl

/-- The search stage never fails, and it narrows a view to the rows in which each term is found. -/
lemma apply_outcome (config : Config) (v : View) (hs : v.table.schema.Distinct)
    (terms : List String) :
    ∃ w, apply config (outcome ⟨Field.ofSchema v.table.schema⟩ terms) v = .ok w ∧
      w.table = v.table ∧ w.distinct = v.distinct ∧
      ∀ row, v.table.schema.Admits row → (w.shows row = true ↔ v.shows row = true ∧
        ∀ term ∈ terms, ∃ x ∈ v.table.schema.columns.zip row, finds term x.1.kind x.2 = true) := by
  rw [outcome]
  split_ifs with hterms hany
  · refine ⟨v, rfl, rfl, rfl, fun row _ => ?_⟩
    simp [List.isEmpty_iff.mp hterms]
  · refine ⟨DataSource.nothing v, rfl, rfl, rfl, fun row hr => ?_⟩
    rw [View.shows_nothing]
    refine ⟨nofun, fun ⟨_, hall⟩ => ?_⟩
    -- A term that no column can hold is found in no row.
    obtain ⟨ps, hps, hempty⟩ := List.any_eq_true.mp hany
    obtain ⟨term, hmem, rfl⟩ := List.mem_map.mp hps
    have hsays := (says_group hs hr).mpr (hall term hmem)
    rw [List.isEmpty_iff.mp hempty, says_any (by simp)] at hsays
    simp at hsays
  · have hready : Ready v.table.schema
        (.all ((terms.map (group ⟨Field.ofSchema v.table.schema⟩)).map Predicate.any)) := by
      rw [ready_all, List.map_map, List.forall_mem_map]
      exact fun term _ => ready_any.mpr (ready_group hs)
    obtain ⟨test, htest, hholds⟩ := hready.test
    refine ⟨v.addSteps [.keep test], ?_, rfl, rfl, fun row hr => ?_⟩
    · rw [apply, View.filter_eq, htest]
      rfl
    · rw [View.shows_addSteps, Bool.and_eq_true, List.all_cons, List.all_nil, Bool.and_true,
        Step.admits, hholds, says_all, List.map_map, List.forall_mem_map]
      simp only [Function.comp_apply, says_group hs hr]

end RowQuery.Search
