import RowQuery.Proofs.Numeric.Plain
import RowQuery.Proofs.Search.Clauses
import RowQuery.Proofs.Table.Reloading

/-!
A row is found by its own value. A value that a column stores is read back from its text
(`ColumnKind.read?_text`), whichever colons stand in it, and a JSON string is read like an operand. So a
filter for equality with the text of a cell, or with the string that it was loaded from, keeps the row of
the cell: `Dataset.rows_found_by_own_values`.
-/

namespace RowQuery

open Outcome

/-- A value that a column stores is read back from its text. -/
lemma ColumnKind.read?_text {kind : ColumnKind} {v : Value} (h : kind.Stores v) (hv : v ≠ .null) :
    kind.read? v.text = some v := by
  obtain ⟨hnull | his, hfits⟩ := h
  · exact absurd hnull hv
  cases kind with
  | char | text =>
    cases his with | string s =>
    show some (Value.string (String.ofList s.toList)) = _
    rw [String.ofList_toList]
  | integer | autoId | relation =>
    cases his with | integer n =>
    rw [read?, Value.text, String.toList_ofList, Value.write,
      Numeric.readInt64?_trim_iff.mpr ⟨hfits n rfl, Numeric.spells_intDigits n⟩]
    rfl
  | float | decimal =>
    cases his with | number x hx =>
    have htrim : Text.trim x.plain = x.plain :=
      Text.trim_eq_self fun c hc => Numeric.Binary64.isBlank_of_mem_plain hx hc
    rw [read?, Value.text, String.toList_ofList, Value.write, htrim,
      Numeric.Binary64.readBinary64?_plain hx, Option.filter_some, if_pos hx]
    rfl
  | boolean | nullBoolean =>
    cases his with | boolean b =>
    cases b <;> rfl
  | date =>
    cases his with | date d =>
    rw [read?, Value.text, String.toList_ofList, Value.write, d.read?_write]
    rfl
  | dateTime =>
    cases his with | datetime t =>
    rw [read?, Value.text, String.toList_ofList, Value.write, t.read?_write]
    rfl

/-- Only null is not equal to itself. -/
lemma Value.same_self {v : Value} (hv : v ≠ .null) : v.same v = true := by
  cases v with
  | null => exact absurd rfl hv
  | bool _ | int _ | float _ | string _ | date _ | timestamp _ => simp [same]

/-- A filter for equality keeps the rows whose cell its operand is read as. -/
lemma Table.exists_keeps_own {t : Table} {row : Row} {c : Column} {v : Value} {operand : String}
    (hs : t.schema.Distinct) (hrow : row ∈ t.rows) (hv : (c, v) ∈ t.schema.columns.zip row)
    (hkind : c.kind ≠ .relation) (hread : c.kind.read? operand = some v) :
    ∃ clause, Clause.compile ⟨Field.ofSchema t.schema⟩ c.name (Expression.written "eq" operand) =
      .ok clause ∧ t.Keeps clause row := by
  have hc : c ∈ t.schema.columns := (List.of_mem_zip hv).1
  obtain ⟨datatype, hdatatype⟩ := ColumnKind.exists_datatype? hkind
  have hget : Catalog.get? ⟨Field.ofSchema t.schema⟩ c.name = some (Field.ofColumn c.name datatype) :=
    Catalog.get?_of_mem (OutputSchema.fieldCatalog_ofSchema hs)
      (Field.mem_ofSchema.mpr ⟨c, hc, datatype, hdatatype, rfl⟩)
  have his : v.Is c.kind.expected := ColumnKind.read?_is hread
  have hne : v ≠ .null := by
    rintro rfl
    cases his.isNull
  have hholds : (CellTest.exact v).holds v = true := by
    rw [CellTest.holds_exact (.inr his) his]
    exact Value.same_self hne
  have hsays : Predicate.Says t.schema (.lookup ⟨c.name, .exact, .scalar operand⟩) row :=
    (Predicate.says_lookup hs hc (.exact hread)).mpr ⟨(c, v), hv, rfl, hholds⟩
  have hequal : Operator.named? "eq" = some .default := rfl
  obtain ⟨clause, hkeeps, hcompile⟩ := (Table.exists_keeps_iff (f := .ofColumn c.name datatype)
    hget hrow "eq" operand hequal (by decide) rfl rfl rfl).mpr ⟨_, rfl, hsays⟩
  exact ⟨clause, hcompile, hkeeps⟩

namespace Dataset

variable {d : Dataset} {t : Table}

/-- A cell that is not null finds its row by its text: an expression for equality with this text can be
compiled and applied, and keeps the row. So does an expression for equality with a string that the cell
is given as in the dataset. The numbers of the dataset are bounded if it is read from a text
(`parse_bounded`). -/
theorem rows_found_by_own_values (hs : d.schema.Distinct) (hb : d.Bounded) (ht : d.table = .ok t) :
    let finds (c : Column) (operand : String) (row : Row) := ∃ clause,
      Clause.compile ⟨Field.ofSchema d.schema⟩ c.name (Expression.written "eq" operand) = .ok clause ∧
        t.Keeps clause row
    (∀ row ∈ t.rows, ∀ c v, (c, v) ∈ d.schema.columns.zip row → c.kind ≠ .relation → v ≠ .null →
      finds c v.text row) ∧
    ∀ (n : Nat) (members : List (String × Json)) (row : Row), d.rows[n]? = some members →
      t.rows[n]? = some row → ∀ c ∈ d.schema.columns, c.kind ≠ .relation →
        ∀ s, Json.get? c.name members = some (.string s) → finds c s row := by
  intro finds
  obtain ⟨hschema, -, hread⟩ := table_ok_iff.mp ht
  rw [← hschema] at hs hread
  have hfinds {c : Column} {v : Value} {operand : String} {row : Row} (hrow : row ∈ t.rows)
      (hv : (c, v) ∈ d.schema.columns.zip row) (hkind : c.kind ≠ .relation)
      (h : c.kind.read? operand = some v) : finds c operand row := by
    show ∃ clause, Clause.compile ⟨Field.ofSchema d.schema⟩ _ _ = _ ∧ _
    rw [← hschema] at hv ⊢
    exact t.exists_keeps_own hs hrow hv hkind h
  constructor
  · intro row hrow c v hv hkind hne
    obtain ⟨members, hmem, -, hcells⟩ := exists_of_mem_right hread row hrow
    have hcell : cell members c = .ok v :=
      (List.forall₂_iff_zip.mp (mapM_ok_iff.mp hcells)).2 (hschema ▸ hv)
    exact hfinds hrow hv hkind (ColumnKind.read?_text (cell_stores (hb members hmem) hcell) hne)
  · intro n members row hmembers hrow c hc hkind s hget
    have hreads : Reads t.schema members row := by
      refine (List.forall₂_iff_zip.mp hread).2 ?_
      exact List.mem_of_getElem? (List.getElem?_zip_eq_some.mpr ⟨hmembers, hrow⟩)
    have hmem : row ∈ t.rows := List.mem_of_getElem? hrow
    obtain ⟨v, hv⟩ := (table_admits ht hb row hmem).exists_mem_zip (hschema ▸ hc)
    have hcell : cell members c = .ok v :=
      (List.forall₂_iff_zip.mp (mapM_ok_iff.mp hreads.2)).2 hv
    rw [cell, hget] at hcell
    exact hfinds hmem (hschema ▸ hv) hkind (ColumnKind.coerce_ok_iff.mp hcell)

/-- The first of the moments is found by its number, by the string that the number is given as and by
the time with its colons. -/
theorem moments_found_by_own_values :
    let finds (t : Table) (c : Column) (operand : String) (row : Row) := ∃ clause,
      Clause.compile ⟨Field.ofSchema moments.schema⟩ c.name (Expression.written "eq" operand) =
        .ok clause ∧ t.Keeps clause row
    moments.schema.Distinct ∧ moments.Bounded ∧ ∃ t row, moments.table = .ok t ∧
      t.rows[0]? = some row ∧
      (⟨"id", .autoId⟩, .int 7) ∈ moments.schema.columns.zip row ∧
      finds t ⟨"id", .autoId⟩ (Value.text (.int 7)) row ∧ finds t ⟨"id", .autoId⟩ " 7" row ∧
      finds t ⟨"at", .dateTime⟩ "2016-12-31T23:59:60.25Z" row := by
  intro finds
  have hs : moments.schema.Distinct := by decide
  have hb : moments.Bounded := by decide
  obtain ⟨t, row, ht, hrow, hfirst⟩ : ∃ t row, moments.table = .ok t ∧ t.rows[0]? = some row ∧
      (moments.schema.columns.zip row)[0]? = some (⟨"id", .autoId⟩, .int 7) := ⟨_, _, rfl, rfl, rfl⟩
  have hid := List.mem_of_getElem? hfirst
  obtain ⟨hvalues, hstrings⟩ := rows_found_by_own_values hs hb ht
  exact ⟨hs, hb, t, row, ht, hrow, hid,
    hvalues row (List.mem_of_getElem? hrow) _ _ hid (by decide) (by decide),
    hstrings 0 _ row rfl hrow _ (by decide) (by decide) " 7" rfl,
    hstrings 0 _ row rfl hrow _ (by decide) (by decide) "2016-12-31T23:59:60.25Z" rfl⟩

end Dataset

end RowQuery
