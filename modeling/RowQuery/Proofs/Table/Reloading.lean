import RowQuery.Proofs.Calendar.ReadBack
import RowQuery.Proofs.Table.Loading
import RowQuery.Proofs.Table.Members
import RowQuery.Proofs.Table.Steps

/-!
Dumping a table and loading it again. A cell is read as a value that its column stores, and such a value
is read back from the JSON that is shown for it (`Value.ofJson_toJson`), days and moments from their
texts. So the objects of a table make a dataset again, and its table is the same: `table_of_toJson`.
-/

namespace RowQuery

open Outcome

/-- The values that a cell of a column of the kind is read as: integers have at most 64 bits. -/
def ColumnKind.Stores (kind : ColumnKind) (v : Value) : Prop :=
  kind.Admits v ∧ ∀ n, v = .int n → Numeric.fitsInt64 n = true

/-- An integer that a text is read as has at most 64 bits. -/
lemma ColumnKind.read?_fits {kind : ColumnKind} {raw : String} {n : Int}
    (h : kind.read? raw = some (.int n)) : Numeric.fitsInt64 n = true := by
  cases kind with
  | char | text => cases h
  | integer | autoId | relation =>
    obtain ⟨m, hm, heq⟩ := Option.map_eq_some_iff.mp h
    cases heq
    exact (Option.filter_eq_some_iff.mp hm).2
  | float | decimal | boolean | nullBoolean | date | dateTime =>
    obtain ⟨_, -, heq⟩ := Option.map_eq_some_iff.mp h
    cases heq

namespace Value

variable {json : Json} {kind : ColumnKind} {column : Column} {v : Value} {n : Int}

lemma ofPlainJson?_fits (h : ofPlainJson? json kind = some (.int n)) :
    Numeric.fitsInt64 n = true := by
  cases json with
  | integer m =>
    cases kind with
    | integer | autoId | relation =>
      obtain ⟨hfits, heq⟩ := Option.ite_none_right_eq_some.mp h
      cases heq
      exact hfits
    | char | text | float | decimal | boolean | nullBoolean | date | dateTime => cases h
  | bool b => cases kind <;> cases h
  | float x => cases kind <;> cases h
  | null | string s | array items | object members => cases h

/-- A cell is read as a value that its column stores. -/
lemma ofJson_stores (hb : json.Bounded) (h : ofJson json column = .ok v) : column.kind.Stores v := by
  refine ⟨ofJson_admits hb h, ?_⟩
  rintro n rfl
  unfold ofJson at h
  split at h
  · exact ColumnKind.read?_fits (ColumnKind.coerce_ok_iff.mp h)
  · split at h
    · rename_i hread
      cases h
      exact ofPlainJson?_fits hread
    · cases h

/-- What is shown as a string is read like an operand. -/
lemma ofJson_string {s : String} (h : column.kind.read? s = some v) :
    ofJson (.string s) column = .ok v :=
  ColumnKind.coerce_ok_iff.mpr h

/-- A value that a column stores is read back from what is shown for it. -/
lemma ofJson_toJson (h : column.kind.Stores v) : ofJson v.toJson column = .ok v := by
  obtain ⟨name, kind⟩ := column
  obtain ⟨rfl | hv, hfits⟩ := h
  · rfl
  cases kind with
  | char | text =>
    cases hv with | string s =>
    exact ofJson_string rfl
  | integer | autoId | relation =>
    cases hv with | integer n =>
    have hn : Numeric.fitsInt64 n = true := hfits n rfl
    simp [toJson, ofJson, ofPlainJson?, hn]
  | float | decimal =>
    cases hv with | number x hx =>
    simp [toJson, Json.ofBinary64, hx, ofJson, ofPlainJson?]
  | boolean | nullBoolean =>
    cases hv with | boolean b =>
    rfl
  | date =>
    cases hv with | date d =>
    refine ofJson_string ?_
    rw [ColumnKind.read?, String.toList_ofList, d.read?_write]
    rfl
  | dateTime =>
    cases hv with | datetime t =>
    refine ofJson_string ?_
    rw [ColumnKind.read?, String.toList_ofList, t.read?_write]
    rfl

end Value

namespace Dataset

variable {d : Dataset} {t : Table} {s : Schema} {members : List (String × Json)} {row : Row}

/-- The cells of a row that is read are values that their columns store. -/
lemma cell_stores {c : Column} {v : Value} (hb : ∀ m ∈ members, m.2.Bounded)
    (h : cell members c = .ok v) : c.kind.Stores v := by
  unfold cell at h
  split at h
  · rename_i json hget
    exact Value.ofJson_stores (hb _ (Json.mem_of_get? hget)) h
  · cases h
    exact ⟨.inl rfl, nofun⟩

/-- A row is read back from the members that are shown for it. -/
lemma Reads.shown (hs : t.schema.Distinct) (hb : ∀ m ∈ members, m.2.Bounded)
    (h : Reads t.schema members row) : Reads t.schema (t.members row) row := by
  have hlen := h.length_eq
  constructor
  · intro m hm
    obtain ⟨c, hc, hn⟩ := (Table.mem_keys_members hlen).mp (List.mem_map_of_mem hm)
    rw [← hn, hs.column? hc]
    rfl
  · refine mapM_ok_iff.mpr (List.forall₂_iff_zip.mpr ⟨hlen.symm, ?_⟩)
    intro c v hv
    have hread := (List.forall₂_iff_zip.mp (mapM_ok_iff.mp h.2)).2 hv
    rw [cell, Table.get?_members hs hlen hv]
    exact Value.ofJson_toJson (cell_stores hb hread)

/-- The rows of a loaded table, shown as JSON objects, make a dataset of the same declaration, and this
dataset is loaded into the same table. The numbers of the dataset are bounded if it is read from a text
(`parse_bounded`). -/
theorem table_of_toJson (hs : d.schema.Distinct) (hb : d.Bounded) (ht : d.table = .ok t) :
    ∃ rows, (View.ofTable t).toJson = rows.map Json.object ∧ table ⟨d.schema, rows⟩ = .ok t := by
  obtain ⟨hschema, hkey, hread⟩ := table_ok_iff.mp ht
  refine ⟨t.rows.map t.members, ?_, table_ok_iff.mpr ⟨hschema, hkey, ?_⟩⟩
  · rw [View.toJson, View.rows_ofTable, List.map_map]
    rfl
  · rw [List.forall₂_map_left_iff, List.forall₂_same]
    intro row hrow
    obtain ⟨members, hmem, hreads⟩ := exists_of_mem_right hread row hrow
    rw [← hschema] at hs hreads ⊢
    exact hreads.shown hs (hb members hmem)

/-- A dataset of moments: a leap second, one that is a day earlier in universal time and before the
year 0, and a day whose year has five digits. -/
def moments : Dataset where
  schema := ⟨"moments", "id", [⟨"id", .autoId⟩, ⟨"at", .dateTime⟩, ⟨"day", .date⟩, ⟨"share", .decimal⟩]⟩
  rows :=
    [[("at", .string "2016-12-31T23:59:60.25Z"), ("day", .string "+12024-02-29"), ("id", .string " 7")],
     [("at", .string "0000-01-01t00:30:00+01:00"), ("id", .integer 8), ("share", .integer 3)]]

/-- The moments are the same when they are loaded again. -/
theorem moments_table_of_toJson :
    moments.schema.Distinct ∧ moments.Bounded ∧ ∃ t, moments.table = .ok t ∧
      ∃ rows, (View.ofTable t).toJson = rows.map Json.object ∧
        table ⟨moments.schema, rows⟩ = .ok t := by
  have hs : moments.schema.Distinct := by decide
  have hb : moments.Bounded := by decide
  obtain ⟨t, ht⟩ : ∃ t, moments.table = .ok t := ⟨_, rfl⟩
  exact ⟨hs, hb, t, ht, table_of_toJson hs hb ht⟩

end Dataset

end RowQuery
