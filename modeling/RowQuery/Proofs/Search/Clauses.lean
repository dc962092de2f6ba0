import RowQuery.Pipeline
import RowQuery.Proofs.Filter.Lists
import RowQuery.Proofs.Search.OwnFields

/-!
Free-text search and the operators of filters. A term is looked for in the fields of any catalog, with
converters and conditions of their own, and the condition for a field is the one that a clause has: the
clause of the operator `like` for a string field, that of `eq` for an integer field and a number. A field
that refuses the term, and a term that every field refuses, come to the same on both sides, so a row is
shown iff for each term some clause keeps it: `rows_agree_with_clauses`.
-/

namespace RowQuery

open Outcome Predicate

/-- A clause can be applied to a table and keeps the row. -/
def Table.Keeps (t : Table) (c : Clause) (row : Row) : Prop :=
  ∃ rows, t.keep c = .ok rows ∧ row ∈ rows

/-- The clause by which an operator finds a term in a field keeps the row: a part of a text, or a number
written in digits alone. -/
def Table.Finds (t : Table) (catalog : Catalog Field) (term : String) (f : Field) (row : Row) : Prop :=
  ∃ c, t.Keeps c row ∧
    (f.datatype = .string ∧
        Clause.compile catalog f.name (Expression.written "like" term) = .ok c ∨
      f.datatype = .integer ∧ term.toList.all Numeric.isDigit = true ∧
        (Numeric.parseInt64? term).isSome = true ∧
        Clause.compile catalog f.name (Expression.written "eq" term) = .ok c)

section Clauses

variable {s : Schema} {t : Table} {row : Row} {catalog : Catalog Field} {f : Field} {term : String}

/-- A clause keeps the rows of the table that its condition holds for. -/
lemma Table.keeps_iff {c : Clause} : t.Keeps c row ↔ row ∈ t.rows ∧ Says t.schema c.effective row := by
  simp only [Keeps, keep_ok_iff]
  constructor
  · rintro ⟨_, ⟨answer, ha, rfl⟩, hrow⟩
    obtain ⟨hrow, hsays⟩ := List.mem_filter.mp hrow
    exact ⟨hrow, answer, ha, hsays⟩
  · rintro ⟨hrow, answer, ha, hsays⟩
    exact ⟨_, ⟨answer, ha, rfl⟩, List.mem_filter.mpr ⟨hrow, hsays⟩⟩

/-- Some clause of an operator that is not negated keeps a row iff the field has a condition for the term
that holds for it. -/
lemma Table.exists_keeps_iff (hf : catalog.get? f.name = some f) (hrow : row ∈ t.rows)
    (name term : String) {op : Operator} (h : Operator.named? name = some op)
    (hn : ':' ∉ name.toList) (hl : op.takesList = false) (hflag : op.flag = false)
    (hneg : op.negated = false) :
    (∃ c, t.Keeps c row ∧ Clause.compile catalog f.name (Expression.written name term) = .ok c) ↔
      ∃ p, f.predicate op.comparison (.scalar term) = .ok p ∧ Says t.schema p row := by
  have heffective (p : Predicate) : Clause.effective ⟨f.name, op, p⟩ = p := by
    rw [Clause.effective, if_neg (by simp [hneg])]
  simp only [Clause.compile_of_parse hf (Expression.parse_scalar h hn hl hflag f.name term), map_ok_iff,
    keeps_iff]
  constructor
  · rintro ⟨_, ⟨-, hsays⟩, p, hp, rfl⟩
    rw [heffective] at hsays
    exact ⟨p, hp, hsays⟩
  · rintro ⟨p, hp, hsays⟩
    refine ⟨_, ⟨hrow, ?_⟩, p, hp, rfl⟩
    rw [heffective]
    exact hsays

namespace Search

lemma isNumber_iff : isNumber term = true ↔
    term.toList.all Numeric.isDigit = true ∧ (Numeric.parseInt64? term).isSome = true := by
  rw [isNumber, Bool.and_eq_true, Bool.and_eq_true, and_assoc]
  refine and_iff_right_of_imp fun h => ?_
  obtain ⟨-, hread⟩ := h
  cases hcs : term.toList with
  | nil =>
    rw [Numeric.parseInt64?, hcs] at hread
    cases hread
  | cons c cs => rfl

/-- A field has a condition for a term if its datatype has a comparison for it that the field accepts. -/
lemma condition?_eq_some_iff {p : Predicate} : condition? term f = some p ↔
    ∃ comparison, comparison? f.datatype term = some comparison ∧
      f.predicate comparison (.scalar term) = .ok p := by
  rw [condition?, Option.bind_eq_some_iff]
  exact exists_congr fun comparison => and_congr_right fun _ => mem_toOption_iff

/-- A term is found in a field by clauses iff the condition that the field has for it holds. -/
lemma finds_iff (hf : catalog.get? f.name = some f) (hrow : row ∈ t.rows) :
    t.Finds catalog term f row ↔ ∃ p, condition? term f = some p ∧ Says t.schema p row := by
  have hlike := Table.exists_keeps_iff hf hrow "like" term rfl (by decide) rfl rfl rfl
  have heq := Table.exists_keeps_iff hf hrow "eq" term rfl (by decide) rfl rfl rfl
  simp only [Table.Finds, condition?_eq_some_iff]
  cases hd : f.datatype with
  | string => simpa [comparison?] using hlike
  | integer =>
    by_cases hnum : isNumber term = true
    · obtain ⟨hdigits, hread⟩ := isNumber_iff.mp hnum
      simpa [comparison?, hnum, hdigits, hread, Operator.default] using heq
    · have hnot : ¬(term.toList.all Numeric.isDigit = true ∧
          (Numeric.parseInt64? term).isSome = true) := fun h => hnum (isNumber_iff.mpr h)
      constructor
      · rintro ⟨_, -, ⟨h, -⟩ | ⟨-, hdigits, hread, -⟩⟩
        · cases h
        · exact absurd ⟨hdigits, hread⟩ hnot
      · rintro ⟨p, ⟨comparison, hc, -⟩, -⟩
        rw [comparison?, if_neg hnum] at hc
        cases hc
  | float | boolean | datetime => simp [comparison?]

lemma mem_group_iff {p : Predicate} : p ∈ group catalog term ↔
    ∃ f ∈ catalog.entries, f.advanced = false ∧ condition? term f = some p := by
  simp only [group, searched, List.mem_filterMap, List.mem_filter, Bool.not_eq_true', and_assoc]

/-- Some condition for a term holds for a row iff some field that is not advanced finds the term. -/
lemma exists_says_group_iff {fields : List Field} (hc : Catalog.ofList fields = .ok catalog)
    (hrow : row ∈ t.rows) : (∃ p ∈ group catalog term, Says t.schema p row) ↔
      ∃ f ∈ catalog.entries, f.advanced = false ∧ t.Finds catalog term f row := by
  have hget {f : Field} (hf : f ∈ catalog.entries) : catalog.get? f.name = some f :=
    Catalog.get?_of_mem hc (Catalog.entries_of_ofList hc ▸ hf)
  simp only [mem_group_iff]
  constructor
  · rintro ⟨p, ⟨f, hf, hadvanced, hp⟩, hsays⟩
    exact ⟨f, hf, hadvanced, (finds_iff (hget hf) hrow).mpr ⟨p, hp, hsays⟩⟩
  · rintro ⟨f, hf, hadvanced, hfinds⟩
    obtain ⟨p, hp, hsays⟩ := (finds_iff (hget hf) hrow).mp hfinds
    exact ⟨p, ⟨f, hf, hadvanced, hp⟩, hsays⟩

/-- What a query asks for shows the rows of a table for which each term has a condition that holds. -/
lemma rows_outcome {config : Config} {terms : List String} {v : View} (hterms : terms ≠ [])
    (h : Search.apply config (outcome catalog terms) (View.ofTable t) = .ok v) :
    ∃ keeps : Row → Bool, v.rows = t.rows.filter keeps ∧ ∀ row,
      keeps row = true ↔ ∀ term ∈ terms, ∃ p ∈ group catalog term, Says t.schema p row := by
  rw [outcome, if_neg (by simpa using hterms)] at h
  split at h
  · rename_i hany
    cases h
    -- A term without a condition is found in no row.
    refine ⟨fun _ => false, ?_, fun row => iff_of_false Bool.false_ne_true fun hall => ?_⟩
    · rw [List.filter_false]
      exact View.rows_of_unordered rfl
    · obtain ⟨ps, hps, hempty⟩ := List.any_eq_true.mp hany
      obtain ⟨term, hmem, rfl⟩ := List.mem_map.mp hps
      obtain ⟨p, hp, -⟩ := hall term hmem
      rw [List.isEmpty_iff.mp hempty] at hp
      cases hp
  · have h := mapError_ok_iff.mp h
    rw [View.filter_eq] at h
    obtain ⟨test, htest, rfl⟩ := map_ok_iff.mp h
    have hready : Ready t.schema (.all ((terms.map (group catalog)).map Predicate.any)) :=
      ⟨_, map_ok_iff.mpr ⟨test, htest, rfl⟩⟩
    rw [ready_all, List.map_map, List.forall_mem_map] at hready
    refine ⟨test.holds, ?_, fun row => ?_⟩
    · refine (View.rows_of_unordered rfl).trans ?_
      show (t.rows.filter fun row => [Step.keep test].all (Step.admits row)) = _
      simp [Step.admits]
    · rw [holds_iff htest, says_all, List.map_map, List.forall_mem_map]
      refine forall_congr' fun term => forall_congr' fun hmem => ?_
      exact says_any (ready_any.mp (hready term hmem))

end Search

end Clauses

/-- A search for two terms in the cities: in their numbers, and in a title that has a condition of its
own. A second field of the numbers is passed over. -/
def Dataset.citySearch : Request where
  params := .ofPairs [("q", "om 2")]
  output := cities.output
  filterable := some
    [cityNumber,
     ⟨"title", .custom ⟨1, fun _ comparison operand =>
        .ok (.any [.lookup ⟨"name", comparison, operand⟩, .lookup ⟨"name", .exact, operand⟩])⟩,
      none, .string, false⟩,
     ⟨"key", .path "id", none, .integer, true⟩]

end RowQuery
