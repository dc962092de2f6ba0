import Mathlib.Data.List.Perm.Basic
import RowQuery.Proofs.Json.Bounded
import RowQuery.Proofs.Schema.Columns
import RowQuery.Proofs.Value.Typed
import RowQuery.Table.Dataset

/-!
Tables that datasets are loaded into. Each row is read by itself, so a dataset with its rows in another
order gives a table with its rows in that order (`table_perm`). The numbers of a dataset that is read
from a text are bounded (`parse_bounded`), and where they are each cell of the table is one that its
column admits (`table_admits`).
-/

namespace RowQuery

open Json (Document)
open Outcome

/-- The row has one cell for each column, which the column admits. -/
def Schema.Admits (s : Schema) (row : Row) : Prop :=
  List.Forall₂ (fun c v => c.kind.Admits v) s.columns row

namespace Dataset

/-- The members of a row stand for the cells of a table's row. -/
def Reads (s : Schema) (members : List (String × Json)) (row : Row) : Prop :=
  (∀ m ∈ members, (s.column? m.1).isSome = true) ∧ s.columns.mapM (cell members) = .ok row

/-- The numbers of a dataset are as documents hold them. -/
def Bounded (d : Dataset) : Prop := ∀ members ∈ d.rows, ∀ m ∈ members, m.2.Bounded

instance (d : Dataset) : Decidable d.Bounded :=
  inferInstanceAs (Decidable (∀ members ∈ d.rows, ∀ m ∈ members, m.2.Bounded))

lemma rowOfDocument?_bounded {document : Document} {members : List (String × Json)}
    (hb : document.Bounded) (h : rowOfDocument? document = some members) :
    ∀ m ∈ members, m.2.Bounded := by
  rw [rowOfDocument?] at h
  split at h
  · rename_i hvalue
    cases h
    exact Document.object_bounded hb hvalue
  · cases h

/-- The rows of a dataset are read from the items of a member of the document. -/
lemma exists_item_of_ofDocument? {document : Document} {d : Dataset} (h : ofDocument? document = some d) :
    ∃ fields, document.fields? ["schema", "rows"] = some fields ∧
      ∀ members ∈ d.rows, ∃ e items, some e ∈ fields ∧ e.items? = some items ∧
        ∃ item ∈ items, rowOfDocument? item = some members := by
  obtain ⟨fields, hfields, h⟩ := Option.bind_eq_some_iff.mp h
  refine ⟨fields, hfields, ?_⟩
  split at h
  · rename_i schema rows
    obtain ⟨s, -, h⟩ := Option.bind_eq_some_iff.mp h
    obtain ⟨members, hmembers, h⟩ := Option.bind_eq_some_iff.mp h
    cases h
    cases rows with
    | none =>
      cases hmembers
      exact nofun
    | some e =>
      obtain ⟨items, hitems, hmembers⟩ := Option.bind_eq_some_iff.mp hmembers
      exact fun row hrow => ⟨e, items, by simp, hitems, Json.exists_of_mem_mapM hmembers row hrow⟩
  · cases h

lemma ofDocument?_bounded {document : Document} {d : Dataset} (hb : document.Bounded)
    (h : ofDocument? document = some d) : d.Bounded := by
  obtain ⟨fields, hfields, hrows⟩ := exists_item_of_ofDocument? h
  intro row hrow
  obtain ⟨e, items, he, hitems, item, hitem, hread⟩ := hrows row hrow
  have hbounded : e.Bounded := Document.fields?_bounded hb hfields (some e) he e rfl
  exact rowOfDocument?_bounded (Document.items?_bounded hbounded hitems item hitem) hread

/-- The keys of each row ascend. -/
lemma ofDocument?_ascending {document : Document} {d : Dataset} (h : ofDocument? document = some d) :
    ∀ members ∈ d.rows, Json.Ascending members := by
  obtain ⟨_, -, hrows⟩ := exists_item_of_ofDocument? h
  intro row hrow
  obtain ⟨_, _, -, -, item, -, hread⟩ := hrows row hrow
  rw [rowOfDocument?] at hread
  split at hread
  · rename_i hvalue
    cases hread
    exact Document.object_ascending hvalue
  · cases hread

/-- A text that is read as a dataset is a document of it. -/
lemma exists_document_of_parse {text : String} {d : Dataset} (h : parse text = .ok d) :
    ∃ document, Json.readDocument? text = some document ∧ ofDocument? document = some d := by
  rw [parse] at h
  split at h
  · rename_i dataset hread
    cases h
    exact Option.bind_eq_some_iff.mp hread
  · cases h

/-- The numbers of a dataset that is read from a text are bounded. -/
theorem parse_bounded {text : String} {d : Dataset} (h : parse text = .ok d) : d.Bounded := by
  obtain ⟨document, hdocument, hof⟩ := exists_document_of_parse h
  exact ofDocument?_bounded (Document.readDocument?_bounded hdocument) hof

/-- The keys of each row of a dataset that is read from a text ascend. -/
theorem parse_ascending {text : String} {d : Dataset} (h : parse text = .ok d) :
    ∀ members ∈ d.rows, Json.Ascending members := by
  obtain ⟨_, -, hof⟩ := exists_document_of_parse h
  exact ofDocument?_ascending hof

variable {s : Schema} {d : Dataset} {t : Table} {members : List (String × Json)} {r : Row}

/-- What is read for a row does not depend on its place. -/
lemma row_ok_iff {place : Nat} : row s place members = .ok r ↔ Reads s members r := by
  rw [row, Reads]
  split
  · rename_i name json hfind
    have hnone := List.find?_some hfind
    have hmem := List.mem_of_find?_eq_some hfind
    refine ⟨nofun, fun ⟨hall, _⟩ => ?_⟩
    have hsome := hall _ hmem
    simp_all
  · rename_i hfind
    rw [mapError_ok_iff]
    refine ⟨fun h => ⟨fun m hm => ?_, h⟩, fun h => h.2⟩
    have hnot := List.find?_eq_none.mp hfind m hm
    exact Option.isSome_iff_ne_none.mpr fun hnone => hnot (by simp [hnone])

lemma Reads.length_eq (h : Reads s members r) : r.length = s.columns.length :=
  (mapM_ok_iff.mp h.2).length_eq.symm

/-- A table is made of rows that have one cell for each column. -/
lemma ofRows_ok_iff {rows : List Row} : Table.ofRows s rows = .ok t ↔
    (∃ i, s.columnIndex? s.primaryKey = some i) ∧ (∀ row ∈ rows, row.length = s.columns.length) ∧
      t = ⟨s, rows⟩ := by
  rw [Table.ofRows]
  cases hi : s.columnIndex? s.primaryKey with
  | none => simp
  | some i =>
    simp only [Option.isNone_some, Bool.false_eq_true, if_false]
    split
    · rename_i row hfind
      have hne := List.find?_some hfind
      have hmem := List.mem_of_find?_eq_some hfind
      refine ⟨nofun, fun ⟨_, hall, _⟩ => ?_⟩
      simp [hall row hmem] at hne
    · rename_i hfind
      refine ⟨fun h => ⟨⟨i, rfl⟩, fun row hrow => ?_, (Except.ok.inj h).symm⟩, ?_⟩
      · simpa using List.find?_eq_none.mp hfind row hrow
      · rintro ⟨-, -, rfl⟩
        rfl

/-- A dataset is loaded row by row. -/
lemma table_ok_iff : d.table = .ok t ↔
    t.schema = d.schema ∧ (∃ i, d.schema.columnIndex? d.schema.primaryKey = some i) ∧
      List.Forall₂ (Reads d.schema) d.rows t.rows := by
  -- The places of the rows only number the errors.
  have hrows {rows : List Row} : (d.rows.zipIdx.mapM fun x => row d.schema x.2 x.1) = .ok rows ↔
      List.Forall₂ (Reads d.schema) d.rows rows := by
    rw [mapM_ok_iff]
    simp only [row_ok_iff]
    conv_rhs => rw [← List.zipIdx_map_fst 0 d.rows, List.forall₂_map_left_iff]
  rw [table, bind_ok_iff]
  simp only [mapError_ok_iff, ofRows_ok_iff]
  constructor
  · rintro ⟨rows, hread, hkey, -, rfl⟩
    exact ⟨rfl, hkey, hrows.mp hread⟩
  · rintro ⟨hs, hkey, hread⟩
    refine ⟨t.rows, hrows.mpr hread, hkey, fun row hrow => ?_, ?_⟩
    · obtain ⟨members, -, h⟩ := exists_of_mem_right hread row hrow
      exact h.length_eq
    · cases t
      cases hs
      rfl

/-- A dataset with its rows in another order gives a table with its rows in another order. -/
lemma table_perm {rows : List (List (String × Json))} (h : d.table = .ok t) (hp : d.rows.Perm rows) :
    ∃ t', { d with rows }.table = .ok t' ∧ t'.schema = t.schema ∧ t.rows.Perm t'.rows := by
  obtain ⟨hs, hkey, hread⟩ := table_ok_iff.mp h
  obtain ⟨rows', hread', hp'⟩ := List.perm_comp_forall₂ hp.symm hread
  exact ⟨⟨d.schema, rows'⟩, table_ok_iff.mpr ⟨rfl, hkey, hread'⟩, hs.symm, hp'.symm⟩

/-- The cells of a loaded table are values that their columns admit. -/
lemma table_admits (h : d.table = .ok t) (hb : d.Bounded) : ∀ r ∈ t.rows, t.schema.Admits r := by
  obtain ⟨hs, -, hread⟩ := table_ok_iff.mp h
  intro r hr
  obtain ⟨members, hmem, -, hcells⟩ := exists_of_mem_right hread r hr
  rw [hs]
  refine (mapM_ok_iff.mp hcells).imp fun c v hv => ?_
  unfold cell at hv
  split at hv
  · rename_i json hget
    obtain ⟨m, hfind, rfl⟩ := Option.map_eq_some_iff.mp hget
    exact Value.ofJson_admits (hb members hmem m (List.mem_of_find?_eq_some hfind)) hv
  · cases hv
    exact .inl rfl

/-- A dataset of two rows. -/
def cities : Dataset where
  schema := ⟨"cities", "id", [⟨"id", .autoId⟩, ⟨"name", .char⟩]⟩
  rows := [[("id", .integer 2), ("name", .string "Rome")], [("id", .integer 1)]]

lemma cities_table :
    cities.table = .ok ⟨cities.schema, [[.int 2, .string "Rome"], [.int 1, .null]]⟩ := rfl

end Dataset

end RowQuery
