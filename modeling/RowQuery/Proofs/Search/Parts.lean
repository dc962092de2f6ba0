import RowQuery.Proofs.Search.Clauses
import RowQuery.Proofs.Text.Lower

/-!
Texts that stand literally in a cell. Cells and operands are lower-cased apart from each other, and yet
what stands in a cell as it is written is found there whatever the case, if lower-casing treats its
capital sigmas alike in both. Then the comparison holds, `like` keeps the row and `unlike` drops it, and
a search for such texts shows it: `literal_parts_found`. A capital sigma that ends the operand and not
the word of the cell is lost to all of them.
-/

namespace RowQuery

open Outcome Predicate

/-- A text stands in the text of a cell that is not null, and its capital sigmas end words there iff they
do in the text alone. -/
def Value.HasLiteral (cell : Value) (part : String) : Prop :=
  cell.isNull = false ∧ ∃ before after, cell.write = before ++ part.toList ++ after ∧
    Text.KeepsFinals before part.toList after

/-- The cell at the column of a field has an operand in its text, as the converter of the field leaves
it. -/
def Field.HasLiteral (f : Field) (s : Schema) (row : Row) (operand : String) : Prop :=
  ∃ path i cell, f.path? = some path ∧ s.columnIndex? path = some i ∧ row[i]? = some cell ∧
    cell.HasLiteral (f.conversion operand)

/-- A clause can be applied to a table and drops the row. -/
def Table.Drops (t : Table) (c : Clause) (row : Row) : Prop :=
  ∃ rows, t.keep c = .ok rows ∧ row ∉ rows

section Parts

variable {s : Schema} {t : Table} {row : Row} {catalog : Catalog Field} {f : Field} {operand : String}

/-- What stands literally in the text of a cell is a part of it whatever the case. -/
lemma Value.HasLiteral.hasPart {cell : Value} {part : String} (h : cell.HasLiteral part) :
    cell.hasPart part = true := by
  obtain ⟨hnull, before, after, htext, hfinals⟩ := h
  have hinfix : Text.lower part.toList <:+: Text.lower cell.write := by
    rw [htext]
    exact Text.lower_infix hfinals
  rw [Value.hasPart, hnull, decide_eq_true hinfix]
  rfl

/-- Looking for a part of a text is ready for each column, and it tells of each row whether its cell has
the part. -/
lemma Predicate.truth_contains {path : String} {i : Nat} (hi : s.columnIndex? path = some i)
    (part : String) : truth s (.lookup ⟨path, .contains, .scalar part⟩) =
      .ok fun row => (row[i]?).any fun cell => cell.hasPart part := by
  obtain ⟨c, hc, hname⟩ := Schema.exists_of_columnIndex? hi
  cases hcolumn : s.column? path with
  | none =>
    have hnot := List.find?_eq_none.mp hcolumn c (List.mem_of_getElem? hc)
    simp [hname] at hnot
  | some column =>
    rw [truth, RowTest.ofPredicate, RowTest.ofLookup, hi, hcolumn]
    refine congrArg Except.ok (funext fun row => ?_)
    have hholds := funext fun cell => CellTest.holds_contains cell part
    exact congrArg (fun holds => (row[i]?).any holds) hholds

/-- The condition that looks for an operand in the column of a field holds for the rows that have it. -/
lemma Field.HasLiteral.says (h : f.HasLiteral s row operand) :
    ∃ p, f.predicate .contains (.scalar operand) = .ok p ∧ Says s p row := by
  obtain ⟨path, i, cell, hpath, hi, hcell, hpart⟩ := h
  refine ⟨_, predicate_path hpath .contains (.scalar operand), _, truth_contains hi _, ?_⟩
  rw [hcell]
  exact hpart.hasPart

/-- A clause of a negated operator drops the rows that the condition of its field holds for. -/
lemma Table.exists_drops (hf : catalog.get? f.name = some f) (name term : String) {op : Operator}
    (h : Operator.named? name = some op) (hn : ':' ∉ name.toList) (hl : op.takesList = false)
    (hflag : op.flag = false) (hneg : op.negated = true) {p : Predicate}
    (hp : f.predicate op.comparison (.scalar term) = .ok p) (hsaid : Says t.schema p row) :
    ∃ c, Clause.compile catalog f.name (Expression.written name term) = .ok c ∧ t.Drops c row := by
  obtain ⟨answer, htruth, hrow⟩ := hsaid
  refine ⟨⟨f.name, op, p⟩, ?_, _, Table.keep_ok_iff.mpr ⟨fun row => !answer row, ?_, rfl⟩, ?_⟩
  · rw [Clause.compile_of_parse hf (Expression.parse_scalar h hn hl hflag f.name term), hp]
    rfl
  · rw [Clause.effective, if_pos hneg, truth_negate, truth_not, htruth]
    rfl
  · intro hmem
    have hnot := (List.mem_filter.mp hmem).2
    rw [hrow] at hnot
    cases hnot

namespace Search

/-- A query whose terms all have conditions that can be made ready can be applied to a table. -/
lemma exists_apply_outcome (config : Config) {terms : List String}
    (hready : ∀ term ∈ terms, ∀ p ∈ group catalog term, Ready t.schema p) :
    ∃ v, apply config (outcome catalog terms) (View.ofTable t) = .ok v := by
  rw [outcome]
  split_ifs
  · exact ⟨_, rfl⟩
  · exact ⟨_, rfl⟩
  · have hall : Ready t.schema (.all ((terms.map (group catalog)).map Predicate.any)) := by
      rw [ready_all, List.map_map, List.forall_mem_map]
      exact fun term hterm => ready_any.mpr (hready term hterm)
    obtain ⟨test, htest, -⟩ := hall.test
    refine ⟨(View.ofTable t).addSteps [.keep test], ?_⟩
    rw [apply, View.filter_eq]
    exact mapError_ok_iff.mpr (map_ok_iff.mpr ⟨test, htest, rfl⟩)

/-- A search for texts that stand literally in columns of a row shows the row. -/
lemma shows_literal (p : Pipeline) {r : Request} (hr : r.fieldCatalog = .ok catalog)
    (hrow : row ∈ t.rows)
    (hready : ∀ term ∈ terms p.config r, ∀ q ∈ group catalog term, Ready t.schema q)
    (hparts : ∀ term ∈ terms p.config r, ∃ f ∈ catalog.entries, f.advanced = false ∧
      f.datatype = .string ∧ f.HasLiteral t.schema row term) :
    ∃ v, p.applySearch r r.fieldCatalog (View.ofTable t) = .ok v ∧ row ∈ v.rows := by
  obtain ⟨v, hv⟩ := exists_apply_outcome p.config hready
  have happly : p.applySearch r r.fieldCatalog (View.ofTable t) = .ok v := by
    rw [hr, Pipeline.applySearch, compile_eq]
    exact hv
  refine ⟨v, happly, ?_⟩
  by_cases hterms : terms p.config r = []
  · rw [hterms] at hv
    cases hv
    rw [View.rows_ofTable]
    exact hrow
  · obtain ⟨keeps, hrows, hkeeps⟩ := rows_outcome hterms hv
    rw [hrows]
    refine List.mem_filter.mpr ⟨hrow, (hkeeps row).mpr fun term hterm => ?_⟩
    obtain ⟨f, hf, hadvanced, hstring, hpart⟩ := hparts term hterm
    obtain ⟨q, hq, hsaid⟩ := hpart.says
    refine ⟨q, mem_group_iff.mpr ⟨f, hf, hadvanced, condition?_eq_some_iff.mpr ⟨.contains, ?_, hq⟩⟩,
      hsaid⟩
    rw [hstring]
    rfl

/-- A text that stands literally in a cell is found there, if lower-casing treats its capital sigmas in
the cell as in the text alone: the test made of the comparison passes the cell, the clause of `like` for
the field keeps the row and that of `unlike` drops it, and a search succeeds and shows the row if each of
its terms stands so in a string field that is searched. -/
theorem literal_parts_found {fields : List Field} (hc : Catalog.ofList fields = .ok catalog)
    (hrow : row ∈ t.rows) :
    (∀ (kind : ColumnKind) (path part : String) (cell : Value), cell.HasLiteral part →
      ∃ test, CellTest.ofLookup kind ⟨path, .contains, .scalar part⟩ = .ok test ∧
        test.holds cell = true) ∧
    (∀ f ∈ fields, ∀ operand, f.HasLiteral t.schema row operand →
      (∃ c, Clause.compile catalog f.name (Expression.written "like" operand) = .ok c ∧
        t.Keeps c row) ∧
      ∃ c, Clause.compile catalog f.name (Expression.written "unlike" operand) = .ok c ∧
        t.Drops c row) ∧
    ∀ (p : Pipeline) (r : Request), r.fieldCatalog = .ok catalog →
      (∀ term ∈ terms p.config r, ∀ q ∈ group catalog term, Ready t.schema q) →
      (∀ term ∈ terms p.config r, ∃ f ∈ fields, f.advanced = false ∧ f.datatype = .string ∧
        f.HasLiteral t.schema row term) →
      ∃ v, p.applySearch r r.fieldCatalog (View.ofTable t) = .ok v ∧ row ∈ v.rows := by
  refine ⟨fun kind path part cell hpart => ?_, fun f hf operand hpart => ?_,
    fun p r hr hready hparts => ?_⟩
  · exact ⟨_, rfl, (CellTest.holds_contains cell part).trans hpart.hasPart⟩
  · have hget : catalog.get? f.name = some f := Catalog.get?_of_mem hc hf
    obtain ⟨q, hq, hsaid⟩ := hpart.says
    constructor
    · obtain ⟨c, hkeeps, hcompile⟩ :=
        (Table.exists_keeps_iff hget hrow "like" operand rfl (by decide) rfl rfl rfl).mpr ⟨q, hq, hsaid⟩
      exact ⟨c, hcompile, hkeeps⟩
    · exact Table.exists_drops hget "unlike" operand rfl (by decide) rfl rfl rfl hq hsaid
  · rw [← Catalog.entries_of_ofList hc] at hparts
    exact shows_literal p hr hrow hready hparts

end Search

end Parts

/-- A table of Greek texts. -/
def Dataset.greek : Dataset where
  schema := ⟨"words", "word", [⟨"word", .text⟩]⟩
  rows := [[("word", .string "Η ΟΔΟΣ ΜΟΥ")], [("word", .string "ΑΣΑ")]]

lemma Dataset.greek_table :
    greek.table = .ok ⟨greek.schema, [[.string "Η ΟΔΟΣ ΜΟΥ"], [.string "ΑΣΑ"]]⟩ := rfl

namespace Search

/-- Two words of a text, one of which ends in a capital sigma, are found in it. -/
theorem greek_literal_parts_found :
    let row : Row := [.string "Η ΟΔΟΣ ΜΟΥ"]
    let reads (operator operand : String) (c : Clause) :=
      Clause.compile ⟨Field.ofSchema Dataset.greek.schema⟩ "word"
        (Expression.written operator operand) = .ok c
    let r := Dataset.greek.request [("q", "ΟΔΟΣ ΜΟΥ")]
    terms .usual r = ["ΟΔΟΣ", "ΜΟΥ"] ∧ ∃ t, Dataset.greek.table = .ok t ∧ row ∈ t.rows ∧
      (∀ term ∈ ["ΟΔΟΣ", "ΜΟΥ"], (Field.ofColumn "word" .string).HasLiteral t.schema row term) ∧
      (∃ c, reads "like" "ΟΔΟΣ" c ∧ t.Keeps c row) ∧ (∃ c, reads "unlike" "ΟΔΟΣ" c ∧ t.Drops c row) ∧
      ∃ v, Pipeline.applySearch ⟨.usual, none⟩ r r.fieldCatalog (View.ofTable t) = .ok v ∧
        row ∈ v.rows := by
  intro row reads r
  have hparse : SearchTerms.parse "ΟΔΟΣ ΜΟΥ" = ["ΟΔΟΣ", "ΜΟΥ"] := by cbv
  have hterms : terms .usual r = ["ΟΔΟΣ", "ΜΟΥ"] := hparse
  have hcatalog := Dataset.fieldCatalog_request (d := Dataset.greek) [("q", "ΟΔΟΣ ΜΟΥ")] (by decide)
  have hrow : row ∈ [[Value.string "Η ΟΔΟΣ ΜΟΥ"], [.string "ΑΣΑ"]] := List.mem_cons_self
  have hcells : ∀ term ∈ ["ΟΔΟΣ", "ΜΟΥ"],
      (Field.ofColumn "word" .string).HasLiteral Dataset.greek.schema row term := by
    have hfinal : Text.KeepsFinals "Η ".toList "ΟΔΟΣ".toList " ΜΟΥ".toList :=
      Text.keepsFinals_of_words (by decide +kernel) (by decide +kernel)
    have hplain : Text.KeepsFinals "Η ΟΔΟΣ ".toList "ΜΟΥ".toList "".toList :=
      Text.keepsFinals_of_not_mem (by decide)
    intro term hterm
    refine ⟨"word", 0, .string "Η ΟΔΟΣ ΜΟΥ", rfl, rfl, rfl, rfl, ?_⟩
    obtain rfl | rfl : term = "ΟΔΟΣ" ∨ term = "ΜΟΥ" := by simpa using hterm
    · exact ⟨_, _, rfl, hfinal⟩
    · exact ⟨_, _, rfl, hplain⟩
  have hfields : Catalog.ofList (Field.ofSchema Dataset.greek.schema) =
      .ok ⟨Field.ofSchema Dataset.greek.schema⟩ := rfl
  obtain ⟨-, hfilters, hsearch⟩ :=
    literal_parts_found (t := ⟨Dataset.greek.schema, _⟩) hfields hrow
  obtain ⟨hlike, hunlike⟩ := hfilters (.ofColumn "word" .string) (List.mem_singleton_self _) "ΟΔΟΣ"
    (hcells _ (by simp))
  refine ⟨hterms, _, Dataset.greek_table, hrow, hcells, hlike, hunlike,
    hsearch ⟨.usual, none⟩ r hcatalog ?_ ?_⟩
  · exact fun term _ => ready_group (by decide)
  · intro term hterm
    rw [hterms] at hterm
    exact ⟨.ofColumn "word" .string, List.mem_singleton_self _, rfl, rfl, hcells term hterm⟩

/-- A capital sigma that ends what is looked for and stands inside of the word is not found: the
comparison does not hold, `like` drops the row and `unlike` keeps it, and a search does not show it. -/
theorem greek_part_lost :
    let row : Row := [.string "ΑΣΑ"]
    let reads (operator operand : String) (c : Clause) :=
      Clause.compile ⟨Field.ofSchema Dataset.greek.schema⟩ "word"
        (Expression.written operator operand) = .ok c
    let r := Dataset.greek.request [("q", "ΑΣ")]
    "ΑΣ".toList <:+: "ΑΣΑ".toList ∧ terms .usual r = ["ΑΣ"] ∧
      ∃ t, Dataset.greek.table = .ok t ∧ row ∈ t.rows ∧
      (∃ test, CellTest.ofLookup .text ⟨"word", .contains, .scalar "ΑΣ"⟩ = .ok test ∧
        test.holds (.string "ΑΣΑ") = false) ∧
      (∃ c, reads "like" "ΑΣ" c ∧ t.Drops c row) ∧ (∃ c, reads "unlike" "ΑΣ" c ∧ t.Keeps c row) ∧
      ∃ v, Pipeline.applySearch ⟨.usual, none⟩ r r.fieldCatalog (View.ofTable t) = .ok v ∧
        row ∉ v.rows := by
  intro row reads r
  have hparse : SearchTerms.parse "ΑΣ" = ["ΑΣ"] := by cbv
  have hterms : terms .usual r = ["ΑΣ"] := hparse
  have hcatalog := Dataset.fieldCatalog_request (d := Dataset.greek) [("q", "ΑΣ")] (by decide)
  have hrow : row ∈ [[Value.string "Η ΟΔΟΣ ΜΟΥ"], [.string "ΑΣΑ"]] := by simp [row]
  have hnot : Value.hasPart (.string "ΑΣΑ") "ΑΣ" = false := by decide +kernel
  have hplace : Dataset.greek.schema.columnIndex? "word" = some 0 := rfl
  have htruth := truth_contains hplace "ΑΣ"
  have hsaid : ¬Says Dataset.greek.schema (.lookup ⟨"word", .contains, .scalar "ΑΣ"⟩) row := by
    rintro ⟨answer, ha, hholds⟩
    rw [htruth] at ha
    cases ha
    exact absurd hholds (by simp [row, hnot])
  refine ⟨⟨[], ['Α'], rfl⟩, hterms, _, Dataset.greek_table, hrow, ⟨_, rfl, ?_⟩, ⟨_, rfl, ?_⟩,
    ⟨_, rfl, ?_⟩, ?_⟩
  · exact (CellTest.holds_contains _ _).trans hnot
  · refine ⟨_, Table.keep_ok_iff.mpr ⟨_, htruth, rfl⟩, fun hmem => ?_⟩
    exact hsaid ⟨_, htruth, (List.mem_filter.mp hmem).2⟩
  · refine Table.keeps_iff.mpr ⟨hrow, fun row => !(row[0]?).any fun cell => cell.hasPart "ΑΣ", ?_, ?_⟩
    · exact (truth_not _ _).trans (congrArg (Except.map _) htruth)
    · simp [row, hnot]
  · have hready : ∀ term ∈ ["ΑΣ"], ∀ q ∈ group ⟨Field.ofSchema Dataset.greek.schema⟩ term,
        Ready Dataset.greek.schema q := fun term _ => ready_group (by decide)
    obtain ⟨v, hv⟩ := exists_apply_outcome .usual
      (t := ⟨Dataset.greek.schema, [[.string "Η ΟΔΟΣ ΜΟΥ"], [.string "ΑΣΑ"]]⟩) hready
    obtain ⟨keeps, hrows, hkeeps⟩ := rows_outcome (by simp) hv
    refine ⟨v, ?_, fun hmem => ?_⟩
    · rw [hcatalog, Pipeline.applySearch, compile_eq, hterms]
      exact hv
    · rw [hrows] at hmem
      obtain ⟨q, hq, hfound⟩ := (hkeeps row).mp (List.mem_filter.mp hmem).2 "ΑΣ" (by simp)
      obtain rfl := List.mem_singleton.mp hq
      exact hsaid hfound

end Search

end RowQuery
