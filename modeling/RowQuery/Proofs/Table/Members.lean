import RowQuery.Proofs.Json.Members
import RowQuery.Proofs.Schema.Columns
import RowQuery.Table.Basic

/-!
Rows as JSON objects. An object has a member for each column, and where the names of the columns are
different, the name of a column leads to its cell.
-/

namespace RowQuery.Table

variable {t : Table} {row : Row}

/-- The members of a row as a JSON object. -/
def members (t : Table) (row : Row) : List (String × Json) :=
  Json.sortMembers (List.zipWith (fun c v => (c.name, Value.toJson v)) t.schema.columns row)

lemma rowJson_eq (t : Table) (row : Row) : t.rowJson row = .object (t.members row) := rfl

/-- The cells of a row stand under the names of the columns. -/
lemma names_cells (h : row.length = t.schema.columns.length) :
    (List.zipWith (fun c v => (Column.name c, Value.toJson v)) t.schema.columns row).map Prod.fst =
      t.schema.columns.map Column.name := by
  rw [← List.map_uncurry_zip_eq_zipWith, List.map_map]
  have hmap : (t.schema.columns.zip row).map (Column.name ∘ Prod.fst) =
      t.schema.columns.map Column.name := by
    rw [← List.map_map, List.map_fst_zip (Nat.le_of_eq h.symm)]
  exact hmap

/-- A row holds nothing but its cells. -/
lemma exists_of_mem_members {m : String × Json} (h : m ∈ t.members row) : ∃ v, m.2 = Value.toJson v := by
  have hm := Json.mem_of_mem_sortMembers h
  rw [← List.map_uncurry_zip_eq_zipWith] at hm
  obtain ⟨x, -, rfl⟩ := List.mem_map.mp hm
  exact ⟨x.2, rfl⟩

/-- The keys of a row are the names of the columns. -/
lemma mem_keys_members (h : row.length = t.schema.columns.length) {name : String} :
    name ∈ (t.members row).map Prod.fst ↔ ∃ c ∈ t.schema.columns, c.name = name := by
  rw [members, Json.mem_keys_sortMembers, names_cells h, List.mem_map]

/-- Every key of a row is the name of a column. -/
lemma mem_names_of_mem_keys {name : String} (h : name ∈ (t.members row).map Prod.fst) :
    name ∈ t.schema.columns.map Column.name := by
  rw [members, Json.mem_keys_sortMembers, ← List.map_uncurry_zip_eq_zipWith, List.map_map] at h
  obtain ⟨x, hx, rfl⟩ := List.mem_map.mp h
  exact List.mem_map_of_mem (List.of_mem_zip hx).1

/-- The name of a column leads to its cell. -/
lemma get?_members (hs : t.schema.Distinct) (h : row.length = t.schema.columns.length) {c : Column}
    {v : Value} (hv : (c, v) ∈ t.schema.columns.zip row) :
    Json.get? c.name (t.members row) = some v.toJson := by
  have hd := names_cells h
  rw [members, Json.get?_sortMembers (hd ▸ hs)]
  refine Json.get?_of_mem (hd ▸ hs) ?_
  rw [← List.map_uncurry_zip_eq_zipWith]
  exact List.mem_map.mpr ⟨(c, v), hv, rfl⟩

end RowQuery.Table
