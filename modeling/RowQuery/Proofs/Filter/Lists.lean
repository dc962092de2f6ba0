import RowQuery.Proofs.Expression.Written
import RowQuery.Proofs.Filter.OwnFields
import RowQuery.Proofs.Predicate.Lists

/-!
Operators on lists and operators on single values. What a clause keeps of a table comes down to the
truth of its condition (`keep_eq`), and the clause of a list has the truth that the clauses of its values
have together (`combines_of_truth`). So a range keeps what both bounds keep, alternatives keep what some
of the values keeps, and exclusions what each of them keeps: `lists_agree_with_values`.
-/

namespace RowQuery

open Outcome Predicate

/-- The rows that a clause keeps of a table. -/
def Table.keep (t : Table) (c : Clause) : Except FilterError (List Row) :=
  (c.apply (View.ofTable t)).map View.rows

/-- What one clause keeps is told by what others keep: it can be applied iff all of them can, with the
same error otherwise, and it keeps a row iff the answers of the others whether they keep it join to
yes. -/
structure Table.Combines (t : Table) (join : List Bool → Bool) (parts : List Clause) (whole : Clause) :
    Prop where
  applies : (∃ rows, t.keep whole = .ok rows) ↔ ∀ c ∈ parts, ∃ rows, t.keep c = .ok rows
  error : ∀ e, t.keep whole = .error e ↔ ∃ c ∈ parts, t.keep c = .error e
  rows : ∀ kept, parts.mapM t.keep = .ok kept →
    t.keep whole = .ok (t.rows.filter fun row => join (kept.map fun rows => decide (row ∈ rows)))

section Keep

variable {t : Table} {parts : List Clause} {whole : Clause}

/-- A clause keeps the rows that its condition holds for. -/
lemma Table.keep_eq (t : Table) (c : Clause) :
    t.keep c = ((truth t.schema c.effective).mapError (FilterError.ofStore c.field)).map fun answer =>
      t.rows.filter answer := by
  rw [keep, Clause.apply_eq, Clause.reportedStep, Clause.truth_effective]
  show (((c.step t.schema).mapError _).map _).map View.rows = _
  cases c.step t.schema with
  | error e => rfl
  | ok st =>
    refine congrArg Except.ok ((View.rows_of_unordered rfl).trans ?_)
    show (t.rows.filter fun row => [st].all (Step.admits row)) = _
    simp

lemma Table.keep_ok_iff {c : Clause} {rows : List Row} : t.keep c = .ok rows ↔
    ∃ answer, truth t.schema c.effective = .ok answer ∧ t.rows.filter answer = rows := by
  simp only [keep_eq, map_ok_iff, mapError_ok_iff]

lemma Table.keep_error_iff {c : Clause} {e : FilterError} : t.keep c = .error e ↔
    ∃ cause, truth t.schema c.effective = .error cause ∧ FilterError.ofStore c.field cause = e := by
  rw [keep_eq, map_error_iff, mapError_error_iff]

/-- A clause whose condition says what those of other clauses say together tells what these keep, if
the same is to blame for whatever is wrong with any of them. -/
lemma Table.combines_of_truth {join : List Bool → Bool} {joined : List (Row → Bool) → Row → Bool}
    (hj : ∀ answers row, joined answers row = join (answers.map fun answer => answer row))
    (ht : truth t.schema whole.effective =
      (truths t.schema (parts.map Clause.effective)).map joined)
    (hb : ∃ blame, ∀ c ∈ whole :: parts, ∀ e, t.keep c = .error e → e = blame) :
    t.Combines join parts whole := by
  obtain ⟨blame, hb⟩ := hb
  rw [truths, List.mapM_map] at ht
  have applies : (∃ rows, t.keep whole = .ok rows) ↔ ∀ c ∈ parts, ∃ rows, t.keep c = .ok rows := by
    simp only [keep_ok_iff, ht, map_ok_iff]
    constructor
    · rintro ⟨_, _, ⟨answers, h, -⟩, -⟩ c hc
      obtain ⟨answer, h⟩ := exists_mapM_ok_iff.mp ⟨answers, h⟩ c hc
      exact ⟨_, answer, h, rfl⟩
    · intro h
      obtain ⟨answers, h⟩ := exists_mapM_ok_iff.mpr fun c hc =>
        (h c hc).elim fun _ h => h.imp fun _ h => h.1
      exact ⟨_, _, ⟨answers, h, rfl⟩, rfl⟩
  refine ⟨applies, fun e => ⟨fun h => ?_, ?_⟩, fun kept hkept => ?_⟩
  -- What is to blame is the same, so it is enough that some part fails if the whole does.
  · obtain ⟨c, hc, hnot⟩ : ∃ c ∈ parts, ¬∃ rows, t.keep c = .ok rows := by
      by_contra hall
      push Not at hall
      obtain ⟨rows, hrows⟩ := applies.mpr hall
      rw [h] at hrows
      cases hrows
    obtain ⟨e', he'⟩ := exists_error_iff.mpr hnot
    refine ⟨c, hc, ?_⟩
    rw [he', hb whole (by simp) e h, hb c (by simp [hc]) e' he']
  · rintro ⟨c, hc, he⟩
    have hnot : ¬∃ rows, t.keep whole = .ok rows := by
      intro h
      obtain ⟨rows, hrows⟩ := applies.mp h c hc
      rw [he] at hrows
      cases hrows
    obtain ⟨e', he'⟩ := exists_error_iff.mpr hnot
    rw [he', hb whole (by simp) e' he', hb c (by simp [hc]) e he]
  · rw [funext t.keep_eq, mapM_map_eq] at hkept
    obtain ⟨answers, hanswers, rfl⟩ := map_ok_iff.mp hkept
    have hanswers : parts.mapM (fun c => truth t.schema c.effective) = .ok answers := by
      simpa only [mapM_ok_iff, mapError_ok_iff] using hanswers
    refine keep_ok_iff.mpr ⟨joined answers, ?_, List.filter_congr fun row hrow => ?_⟩
    · rw [ht]
      exact map_ok_iff.mpr ⟨answers, hanswers, rfl⟩
    · rw [hj, List.map_map]
      refine congrArg join (List.map_congr_left fun answer _ => ?_)
      simp [hrow]

end Keep

/-- How a field changes the values of an operand. -/
def Field.conversion (f : Field) : String → String := (f.converter.map Converter.convert).getD id

lemma Field.convert_eq (f : Field) (operand : Operand) :
    f.convert operand = operand.map f.conversion := by
  rw [convert, conversion]
  cases f.converter with
  | some c => rfl
  | none => cases operand <;> simp [Operand.map]

/-- A field with a path compares the column with the converted operand. -/
lemma Field.predicate_path {f : Field} {path : String} (hp : f.path? = some path)
    (comparison : Comparison) (operand : Operand) :
    f.predicate comparison operand = .ok (.lookup ⟨path, comparison, operand.map f.conversion⟩) := by
  have hsource : f.source = .path path := by
    cases hs : f.source <;> simp_all [path?]
  rw [predicate, hsource, convert_eq]

/-- The clause by which an operator compares a column. -/
def Clause.onPath (field path : String) (op : Operator) (operand : Operand) : Clause :=
  ⟨field, op, .lookup ⟨path, op.comparison, operand⟩⟩

section Clauses

variable {catalog : Catalog Field} {f : Field} {path name : String} {op : Operator}

/-- An expression for a field with a path compares the column with the converted operand. -/
lemma Clause.compile_path (hf : catalog.get? f.name = some f) (hp : f.path? = some path)
    {text : String} {operand : Operand} (he : Expression.parse f.name text = .ok ⟨op, operand⟩) :
    compile catalog f.name text = .ok (onPath f.name path op (operand.map f.conversion)) := by
  rw [compile_of_parse hf he, Field.predicate_path hp]
  rfl

/-- Whatever is wrong with clauses that compare one column, the same is to blame. -/
lemma Clause.exists_blame (t : Table) (field path : String) : ∃ blame, ∀ op operand e,
    t.keep (onPath field path op operand) = .error e → e = blame := by
  obtain ⟨blame, hb⟩ := Predicate.exists_blame t.schema path field
  refine ⟨blame, fun op operand e he => ?_⟩
  obtain ⟨cause, hcause, rfl⟩ := Table.keep_error_iff.mp he
  rw [effective] at hcause
  split at hcause
  · rw [onPath, truth_negate, truth_not, map_error_iff] at hcause
    exact hb _ _ _ hcause
  · exact hb _ _ _ hcause

/-- Each of some texts is read as a clause that compares the column with its converted value. -/
lemma Clause.compile_values (hf : catalog.get? f.name = some f) (hp : f.path? = some path)
    (h : Operator.named? name = some op) (hn : ':' ∉ name.toList) (hl : op.takesList = false)
    (hflag : op.flag = false) (values : List String) :
    List.Forall₂ (fun x c => compile catalog f.name (Expression.written name x) = .ok c) values
      (values.map fun x => onPath f.name path op (.scalar (f.conversion x))) := by
  rw [List.forall₂_map_right_iff, List.forall₂_same]
  intro x _
  exact compile_path hf hp (Expression.parse_scalar h hn hl hflag f.name x)

/-- The clause of a list tells what the clauses of the single values keep, if it says what they say
together. -/
lemma Table.combines_values {t : Table} {field : String} {values : List String} {whole : Operand}
    {single : Operator} {convert : String → String} {join : List Bool → Bool}
    {joined : List (Row → Bool) → Row → Bool}
    (hj : ∀ answers row, joined answers row = join (answers.map fun answer => answer row))
    (ht : truth t.schema (Clause.onPath field path op whole).effective =
      (truths t.schema ((values.map convert).map fun x =>
        (Clause.onPath field path single (.scalar x)).effective)).map joined) :
    t.Combines join (values.map fun x => Clause.onPath field path single (.scalar (convert x)))
      (Clause.onPath field path op whole) := by
  obtain ⟨blame, hb⟩ := Clause.exists_blame t field path
  refine combines_of_truth hj (ht.trans (by rw [List.map_map, List.map_map]; rfl)) ⟨blame, ?_⟩
  refine List.forall_mem_cons.mpr ⟨hb _ _, fun c hc => ?_⟩
  obtain ⟨x, -, rfl⟩ := List.mem_map.mp hc
  exact hb _ _

end Clauses

lemma everySays_eq (answers : List (Row → Bool)) (row : Row) :
    everySays answers row = List.and (answers.map fun answer => answer row) := by
  rw [everySays, List.and, List.all_map]
  rfl

lemma someSays_eq (answers : List (Row → Bool)) (row : Row) :
    someSays answers row = List.or (answers.map fun answer => answer row) := by
  rw [someSays, List.or, List.any_map]
  rfl

/-- An operator on lists keeps of a table what the operators on single values keep together: a range
what both bounds keep, alternatives what some of the values keeps, exclusions what each of them keeps. -/
theorem Clause.lists_agree_with_values {fields : List Field} {catalog : Catalog Field}
    (hc : Catalog.ofList fields = .ok catalog) {f : Field} (hf : f ∈ fields) {path : String}
    (hp : f.path? = some path) (t : Table) :
    let reads (operator operand : String) (c : Clause) :=
      compile catalog f.name (Expression.written operator operand) = .ok c
    (∀ low high, Expression.IsItem low → Expression.IsItem high → ∃ least most range,
      reads "ge" low least ∧ reads "le" high most ∧
      reads "between" (Expression.inBrackets [low, high]) range ∧
      t.Combines List.and [least, most] range) ∧
    ∀ values, 1 ≤ values.length → values.length ≤ 1000 → values ≠ [""] →
      (∀ x ∈ values, Expression.IsItem x) →
      (∃ singles alternatives, List.Forall₂ (reads "eq") values singles ∧
        reads "in" (Expression.inBrackets values) alternatives ∧
        t.Combines List.or singles alternatives) ∧
      ∃ singles exclusions, List.Forall₂ (reads "ne") values singles ∧
        reads "out" (Expression.inBrackets values) exclusions ∧
        t.Combines List.and singles exclusions := by
  have hget : catalog.get? f.name = some f := Catalog.get?_of_mem hc hf
  intro reads
  constructor
  · intro low high hlow hhigh
    obtain ⟨blame, hb⟩ := exists_blame t f.name path
    refine ⟨_, _, _, compile_path hget hp (Expression.parse_scalar rfl (by decide) rfl rfl _ low),
      compile_path hget hp (Expression.parse_scalar rfl (by decide) rfl rfl _ high),
      compile_path hget hp (Expression.parse_list rfl (by decide) rfl (by simp [hlow, hhigh])
        (by simp) (by simp) (by simp) (by simp) _), ?_⟩
    refine Table.combines_of_truth everySays_eq ?_ ⟨blame, ?_⟩
    · exact truth_range t.schema path (f.conversion low) (f.conversion high)
    · simpa using ⟨hb _ _, hb _ _, hb _ _⟩
  · intro values hmin hmax hs hv
    have hne : values ≠ [] := List.ne_nil_of_length_pos hmin
    have hne' : values.map f.conversion ≠ [] := by simpa using hne
    constructor
    · refine ⟨_, _, compile_values hget hp rfl (by decide) rfl rfl values,
        compile_path hget hp (Expression.parse_list rfl (by decide) rfl hv hne hs hmin hmax _),
        Table.combines_values someSays_eq ?_⟩
      exact truth_oneOf t.schema path hne'
    · refine ⟨_, _, compile_values hget hp rfl (by decide) rfl rfl values,
        compile_path hget hp (Expression.parse_list rfl (by decide) rfl hv hne hs hmin hmax _),
        Table.combines_values everySays_eq ?_⟩
      show truth t.schema (.not (.lookup ⟨path, .oneOf, .list (values.map f.conversion)⟩)) = _
      rw [truth_not, truth_oneOf t.schema path hne', ← truths_not, List.map_map]
      rfl

/-- The field of a city's number, which may be written with a sign for numbers before it. -/
def Dataset.cityNumber : Field where
  name := "number"
  source := .path "id"
  converter := some ⟨0, fun x => String.ofList (x.toList.dropWhile fun c => c == '#')⟩
  datatype := .integer
  advanced := false

/-- The cities from the first to the second number, and those with one of three numbers. -/
theorem Clause.cityNumber_lists_agree :
    let catalog : Catalog Field := ⟨[.ofColumn "name" .string, Dataset.cityNumber]⟩
    let reads (operator operand : String) (c : Clause) :=
      compile catalog "number" (Expression.written operator operand) = .ok c
    Catalog.ofList [.ofColumn "name" .string, Dataset.cityNumber] = .ok catalog ∧
    Dataset.cityNumber ∈ catalog.entries ∧ Dataset.cityNumber.path? = some "id" ∧
    ∃ t, Dataset.cities.table = .ok t ∧
    (∃ least most range, reads "ge" "#1" least ∧ reads "le" "2" most ∧
      reads "between" "(#1,2)" range ∧ t.Combines List.and [least, most] range) ∧
    (∃ singles alternatives, List.Forall₂ (reads "eq") ["2", "#3", "x"] singles ∧
      reads "in" "(2,#3,x)" alternatives ∧ t.Combines List.or singles alternatives) ∧
    ∃ singles exclusions, List.Forall₂ (reads "ne") ["2", "#3", "x"] singles ∧
      reads "out" "(2,#3,x)" exclusions ∧ t.Combines List.and singles exclusions := by
  intro catalog reads
  have hc : Catalog.ofList [.ofColumn "name" .string, Dataset.cityNumber] = .ok catalog := rfl
  have hf : Dataset.cityNumber ∈ [Field.ofColumn "name" .string, Dataset.cityNumber] := by simp
  obtain ⟨hrange, hlists⟩ := lists_agree_with_values hc hf rfl
    ⟨Dataset.cities.schema, [[.int 2, .string "Rome"], [.int 1, .null]]⟩
  exact ⟨hc, hf, rfl, _, Dataset.cities_table, hrange "#1" "2" (by decide) (by decide),
    hlists ["2", "#3", "x"] (by decide) (by decide) (by decide) (by decide)⟩

end RowQuery
