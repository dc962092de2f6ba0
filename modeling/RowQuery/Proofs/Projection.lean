import RowQuery.Projection
import RowQuery.Proofs.Table.Members
import RowQuery.Proofs.Table.RowOrder
import RowQuery.Proofs.Text.Items

/-!
Columns that are projected. A row holds its cells under the whole names of the columns, and the cells
hold no other values, so a path of one fragment finds the cell of the column that has this name, and a
longer one finds nothing but null. The name of a column is such a path, cut at its points:
`projects_column`.
-/

namespace RowQuery

open Outcome

namespace Path

variable {members : List (String × Json)} {fragment : String} {before rest : List String}

lemma join_singleton (fragment : String) : join [fragment] = fragment :=
  String.intercalate_singleton

/-- A name without a point is a path of one fragment. -/
lemma fragments_of_not_mem {name : String} (hne : name ≠ "") (h : '.' ∉ name.toList) :
    fragments name = [name] := by
  have hsome : name.toList ≠ [] := fun hnil => hne (String.toList_eq_nil_iff.mp hnil)
  rw [fragments, Text.splitOn_of_not_mem h, List.filter_cons_of_pos (by simp [hsome]), List.filter_nil,
    List.map_singleton, String.ofList_toList]

/-- No fragment holds a point. -/
lemma not_mem_of_mem_fragments {path : String} (h : fragment ∈ fragments path) :
    '.' ∉ fragment.toList := by
  obtain ⟨piece, hpiece, rfl⟩ := List.mem_map.mp h
  rw [String.toList_ofList]
  exact Text.not_mem_of_mem_splitOn (List.mem_filter.mp hpiece).1

/-- A cell is found where the path ends. -/
lemma follow_cell (before : List String) (v : Value) :
    follow before [] v.toJson = [(join before, v.toJson)] := by
  cases v with
  | null => rw [Value.toJson, follow, unresolved, List.append_nil]
  | float x =>
    rw [Value.toJson, Json.ofBinary64]
    split
    · rfl
    · rw [follow, unresolved, List.append_nil]
  | bool b | int n | string s | date d | timestamp t => rfl

/-- Nothing is found behind a cell. -/
lemma follow_behind_cell (before : List String) (fragment : String) (rest : List String) (v : Value) :
    follow before (fragment :: rest) v.toJson = unresolved before (fragment :: rest) := by
  cases v with
  | null => rfl
  | float x =>
    rw [Value.toJson, Json.ofBinary64]
    split <;> simp [follow, children?, child?]
  | bool b | int n | string s | date d | timestamp t =>
    simp [Value.toJson, follow, children?, child?]

/-- The star finds what the rest of the path finds in any of the children. -/
lemma follow_star (before rest : List String) (members : List (String × Json)) :
    follow before (star :: rest) (.object members) =
      members.flatMap fun m => follow (before ++ [m.1]) rest m.2 := by
  rw [follow, if_pos rfl]
  · rfl
  · exact nofun

/-- Any other fragment finds what the rest of the path finds in the child of this name. -/
lemma follow_name (hf : fragment ≠ star) (before rest : List String) :
    follow before (fragment :: rest) (.object members) =
      (Json.get? fragment members).elim (unresolved before (fragment :: rest))
        (follow (before ++ [fragment]) rest) := by
  rw [follow, if_neg hf]
  · dsimp only [child?]
    cases Json.get? fragment members <;> rfl
  · exact nofun

/-- In a row, a path of two or more fragments finds nothing but null. -/
lemma eq_null_of_mem_follow {t : Table} {row : Row} {next : String} {x : String × Json}
    (h : x ∈ follow before (fragment :: next :: rest) (t.rowJson row)) : x.2 = .null := by
  have hnull {before rest : List String} (h : x ∈ unresolved before rest) : x.2 = .null := by
    obtain rfl := List.mem_singleton.mp h
    rfl
  rw [Table.rowJson_eq] at h
  by_cases hf : fragment = star
  · rw [hf, follow_star] at h
    obtain ⟨m, hm, h⟩ := List.mem_flatMap.mp h
    obtain ⟨v, hv⟩ := Table.exists_of_mem_members hm
    rw [hv, follow_behind_cell] at h
    exact hnull h
  · rw [follow_name hf] at h
    cases hget : Json.get? fragment (t.members row) with
    | none =>
      rw [hget] at h
      exact hnull h
    | some json =>
      obtain ⟨v, hv⟩ : ∃ v, json = Value.toJson v :=
        Table.exists_of_mem_members (Json.mem_of_get? hget)
      rw [hget, hv, Option.elim, follow_behind_cell] at h
      exact hnull h

/-- In a row, a path of one fragment that is no star finds one value. -/
lemma follow_one (hf : fragment ≠ star) (t : Table) (row : Row) :
    ∃ json, follow [] [fragment] (t.rowJson row) = [(fragment, json)] ∧
      ∀ v, Json.get? fragment (t.members row) = some (Value.toJson v) → json = v.toJson := by
  rw [Table.rowJson_eq, follow_name hf]
  cases hget : Json.get? fragment (t.members row) with
  | none =>
    refine ⟨.null, ?_, fun v hv => by cases hv⟩
    rw [Option.elim, unresolved, List.nil_append, join_singleton]
  | some json =>
    obtain ⟨v, rfl⟩ : ∃ v, json = Value.toJson v := Table.exists_of_mem_members (Json.mem_of_get? hget)
    refine ⟨v.toJson, ?_, fun w hw => Option.some.inj hw⟩
    rw [Option.elim, follow_cell, List.nil_append, join_singleton]

end Path

namespace Projection

variable {d : Dataset} {t : Table} {row : Row} {c : Column} {name : String}

/-- A name that could be a value of a list is projected to as one path. -/
lemma ofLists_name (hne : name ≠ "") (hitem : Expression.IsItem name) : ofLists [name] = ⟨[name]⟩ := by
  rw [ofLists, collectItems, List.flatMap_singleton, Text.itemStrings_of_isItem hne hitem]
  rfl

lemma pluck_rowJson (name : String) (t : Table) (row : Row) :
    pluck ⟨[name]⟩ (t.rowJson row) = .ofMembers (Path.traverse name (t.rowJson row)) := by
  rw [Table.rowJson_eq, pluck, if_neg (by simp), pluckObject, List.flatMap_singleton]

/-- A row of a loaded table that is projected to a column, whose name could be an item of a list and is
not the star, shows the cell under the name if there is no point in it. If there is one, the name is
taken for a path, and whatever is shown under it is null, unless the path is a star. The numbers of the
dataset are bounded if it is read from a text (`Dataset.parse_bounded`). -/
theorem projects_column (hs : d.schema.Distinct) (hb : d.Bounded) (ht : d.table = .ok t)
    (hrow : row ∈ t.rows) (hc : c ∈ d.schema.columns) (hne : c.name ≠ "")
    (hitem : Expression.IsItem c.name) (hstar : c.name ≠ Path.star) :
    ('.' ∉ c.name.toList → (ofLists [c.name]).pluck (t.rowJson row) =
      .object [(c.name, (d.schema.cell row c.name).toJson)]) ∧
    ('.' ∈ c.name.toList → Path.fragments c.name ≠ [Path.star] →
      ∃ shown, (ofLists [c.name]).pluck (t.rowJson row) = .object shown ∧
        ∀ x, (c.name, x) ∈ shown → x = .null) := by
  obtain ⟨hschema, -, -⟩ := Dataset.table_ok_iff.mp ht
  have hadmits := Dataset.table_admits ht hb row hrow
  have hlen : row.length = t.schema.columns.length := hadmits.length_eq.symm
  rw [ofLists_name hne hitem, pluck_rowJson, Path.traverse]
  rw [← hschema] at hs hc ⊢
  constructor
  · intro hpoint
    obtain ⟨v, hv⟩ := hadmits.exists_mem_zip hc
    obtain ⟨json, hfollow, hjson⟩ := Path.follow_one hstar t row
    rw [Path.fragments_of_not_mem hne hpoint, hfollow,
      hjson v (Table.get?_members hs hlen hv), Schema.cell_of_mem_zip hs hv]
    rfl
  · intro hpoint hfragments
    refine ⟨_, rfl, fun x hx => ?_⟩
    have hx := Json.mem_of_mem_sortMembers hx
    cases hpath : Path.fragments c.name with
    -- A path without fragments finds the row itself, under no name.
    | nil =>
      rw [hpath] at hx
      obtain heq := List.mem_singleton.mp hx
      exact absurd (Prod.mk.inj heq).1 hne
    | cons fragment rest =>
      have hnot : '.' ∉ fragment.toList := Path.not_mem_of_mem_fragments (hpath ▸ List.mem_cons_self)
      rw [hpath] at hx
      cases rest with
      | nil =>
        obtain ⟨json, hfollow, -⟩ := Path.follow_one
          (fun heq => hfragments (heq ▸ hpath)) t row
        rw [hfollow] at hx
        obtain heq := List.mem_singleton.mp hx
        obtain ⟨rfl, -⟩ := Prod.mk.inj heq
        exact absurd hpoint hnot
      | cons next rest => exact Path.eq_null_of_mem_follow hx

end Projection

/-- A table with a column whose name has a point. -/
def Dataset.players : Dataset where
  schema := ⟨"players", "id", [⟨"id", .autoId⟩, ⟨"name", .char⟩, ⟨"team.name", .char⟩]⟩
  rows := [[("id", .integer 1), ("name", .string "Ann"), ("team.name", .string "Reds")]]

lemma Dataset.players_table :
    players.table = .ok ⟨players.schema, [[.int 1, .string "Ann", .string "Reds"]]⟩ := rfl

namespace Projection

/-- A player, projected to a column without a point in its name and to one with a point. -/
theorem players_projects_column :
    Dataset.players.schema.Distinct ∧ Dataset.players.Bounded ∧ ∃ t, Dataset.players.table = .ok t ∧
      ∃ row ∈ t.rows, Expression.IsItem "name" ∧ Expression.IsItem "team.name" ∧
        (ofLists ["name"]).pluck (t.rowJson row) = .object [("name", .string "Ann")] ∧
        ∃ shown, (ofLists ["team.name"]).pluck (t.rowJson row) = .object shown ∧
          ∀ x, ("team.name", x) ∈ shown → x = .null := by
  have hs : Dataset.players.schema.Distinct := by decide
  have hb : Dataset.players.Bounded := by decide
  have hname : (⟨"name", .char⟩ : Column) ∈ Dataset.players.schema.columns := by decide
  have hteam : (⟨"team.name", .char⟩ : Column) ∈ Dataset.players.schema.columns := by decide
  have hrow : [Value.int 1, .string "Ann", .string "Reds"] ∈
      [[Value.int 1, .string "Ann", .string "Reds"]] := by decide
  obtain ⟨hplain, -⟩ := projects_column hs hb Dataset.players_table hrow hname (by decide) (by decide)
    (by decide)
  obtain ⟨-, hpoint⟩ := projects_column hs hb Dataset.players_table hrow hteam (by decide) (by decide)
    (by decide)
  exact ⟨hs, hb, _, Dataset.players_table, _, hrow, by decide, by decide, hplain (by decide),
    hpoint (by decide) (by decide)⟩

/-- The team of a player is not shown. -/
theorem players_column_not_projected :
    Dataset.players.schema.Distinct ∧ Dataset.players.Bounded ∧
      (⟨"team.name", .char⟩ : Column) ∈ Dataset.players.schema.columns ∧
      Expression.IsItem "team.name" ∧ ∃ t, Dataset.players.table = .ok t ∧ ∃ row ∈ t.rows,
        (ofLists ["team.name"]).pluck (t.rowJson row) ≠
          .object [("team.name", (Dataset.players.schema.cell row "team.name").toJson)] := by
  refine ⟨by decide, by decide, by decide, by decide, _, Dataset.players_table, _,
    List.mem_singleton_self _, ?_⟩
  -- The player has a team, and what is shown is null.
  have hshown : (ofLists ["team.name"]).pluck (Table.rowJson
      ⟨Dataset.players.schema, [[.int 1, .string "Ann", .string "Reds"]]⟩
      [.int 1, .string "Ann", .string "Reds"]) = .object [("team.name", .null)] := rfl
  rw [hshown]
  intro h
  cases h

end Projection

end RowQuery
