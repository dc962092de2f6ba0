import RowQuery.CommandLine.Run
import RowQuery.Proofs.Projection.Items
import RowQuery.Proofs.Table.Members

/-!
The header of plucked rows. The paths that were asked for and found come first, and then the keys of the
rows are added row by row. So the other keys stand in the order in which the rows first show them: one more
row keeps it so (`Added.concat`), and after all rows it is so (`exists_added`). The columns are the keys of
the rows, each once (`header_lists_keys`), and nothing that is printed of a view lacks its column
(`shown_columns`).
-/

namespace RowQuery

namespace Projection

/-- The projections that lists of paths, or the parameters of a request, ask for. -/
inductive Built : Projection → Prop where
  | ofLists (lists : List String) : Built (ofLists lists)
  | ofParams {params : Params} {config : Config} {p : Projection} :
      ofParams? params config = some p → Built p

variable {p : Projection} {doc : Json}

/-- No path is asked for twice. -/
lemma Built.nodup (hp : p.Built) : p.paths.Nodup := by
  cases hp with
  | ofLists lists => exact collectItems_nodup lists
  | ofParams h =>
    rw [ofParams?] at h
    split_ifs at h
    cases h
    exact collectItems_nodup _

/-- What is plucked from a row has its keys in order as well. -/
lemma keysAscend_pluck (h : doc.KeysAscend) (p : Projection) : (p.pluck doc).KeysAscend := by
  cases doc with
  | null | bool b | integer n | float x | string s | array items => trivial
  | object members =>
    rw [pluck]
    split_ifs
    · exact h
    · exact Json.ascending_sortMembers _

end Projection

namespace CommandLine

variable {p : Projection} {rows : List Json} {row : Json} {found others : List String} {key : String}

/-- The number of the first row that has a key. -/
def firstRow (rows : List Json) (key : String) : Nat := rows.findIdx fun row => key ∈ rowKeys row

/-- A key is shown before another one: by an earlier row, or by the same row as the smaller of the two. -/
def ShownBefore (rows : List Json) (a b : String) : Prop :=
  firstRow rows a < firstRow rows b ∨ firstRow rows a = firstRow rows b ∧ a < b

section Rows

lemma mem_flatMap_rowKeys : key ∈ rows.flatMap rowKeys ↔
    ∃ members, Json.object members ∈ rows ∧ key ∈ members.map Prod.fst := by
  rw [List.mem_flatMap]
  constructor
  · rintro ⟨row, hrow, hkey⟩
    cases row with
    | null | bool b | integer n | float x | string s | array items => cases hkey
    | object members => exact ⟨members, hrow, hkey⟩
  · rintro ⟨members, hrow, hkey⟩
    exact ⟨.object members, hrow, hkey⟩

lemma pairwise_rowKeys (h : row.KeysAscend) : (rowKeys row).Pairwise (· < ·) := by
  cases row with
  | null | bool b | integer n | float x | string s | array items => exact .nil
  | object members => exact List.pairwise_map.mpr h

lemma firstRow_lt (h : key ∈ rows.flatMap rowKeys) : firstRow rows key < rows.length := by
  obtain ⟨row, hrow, hkey⟩ := List.mem_flatMap.mp h
  exact List.findIdx_lt_length_of_exists ⟨row, hrow, by simpa using hkey⟩

/-- A row behind the others does not change where their keys are first shown. -/
lemma firstRow_concat_of_mem (h : key ∈ rows.flatMap rowKeys) (row : Json) :
    firstRow (rows ++ [row]) key = firstRow rows key := by
  rw [firstRow, List.findIdx_append, ← firstRow, if_pos (firstRow_lt h)]

/-- A key that is new is first shown by the row behind the others. -/
lemma firstRow_concat_of_not_mem (h : key ∉ rows.flatMap rowKeys) (hkey : key ∈ rowKeys row) :
    firstRow (rows ++ [row]) key = rows.length := by
  have hnone : firstRow rows key = rows.length := by
    refine List.findIdx_eq_length.mpr fun other hother => ?_
    simpa using fun hmem => h (List.mem_flatMap.mpr ⟨other, hother, hmem⟩)
  rw [firstRow, List.findIdx_append, ← firstRow, hnone, if_neg (lt_irrefl _),
    List.findIdx_cons]
  simp [hkey]

end Rows

/-- What some rows have added behind the columns that were found: their other keys, in the order in which
the rows first show them. -/
structure Added (found : List String) (rows : List Json) (others : List String) : Prop where
  mem_iff : ∀ key, key ∈ others ↔ key ∉ found ∧ key ∈ rows.flatMap rowKeys
  ordered : others.Pairwise (ShownBefore rows)

/-- One more row adds those of its keys that have no column yet. -/
lemma Added.concat (h : Added found rows others) (hrow : row.KeysAscend) :
    Added found (rows ++ [row]) (others ++ (rowKeys row).filter (· ∉ found ++ others)) where
  mem_iff key := by
    simp only [List.mem_append, List.mem_filter, List.flatMap_append, List.flatMap_singleton, h.mem_iff,
      decide_eq_true_eq]
    tauto
  ordered := by
    have hnew (key : String) (hkey : key ∈ (rowKeys row).filter (· ∉ found ++ others)) :
        firstRow (rows ++ [row]) key = rows.length := by
      obtain ⟨hrowkey, hnone⟩ := List.mem_filter.mp hkey
      obtain ⟨hfound, hothers⟩ := not_or.mp (mt List.mem_append.mpr (of_decide_eq_true hnone))
      exact firstRow_concat_of_not_mem (fun hmem => hothers ((h.mem_iff key).mpr ⟨hfound, hmem⟩)) hrowkey
    have hold (key : String) (hkey : key ∈ others) :
        firstRow (rows ++ [row]) key = firstRow rows key :=
      firstRow_concat_of_mem ((h.mem_iff key).mp hkey).2 row
    -- Two keys that were there, two that are new, and one that was there before one that is new.
    refine List.pairwise_append.mpr ⟨?_, ?_, fun a ha b hb => .inl ?_⟩
    · refine h.ordered.imp_of_mem fun {a b} ha hb hab => ?_
      rwa [ShownBefore, hold a ha, hold b hb]
    · refine ((pairwise_rowKeys hrow).filter _).imp_of_mem fun {a b} ha hb hlt => .inr ⟨?_, hlt⟩
      rw [hnew a ha, hnew b hb]
    · rw [hold a ha, hnew b hb]
      exact firstRow_lt ((h.mem_iff a).mp ha).2

/-- The keys of all rows are added behind what was found. -/
lemma exists_added (hrows : ∀ row ∈ rows, row.KeysAscend) (found : List String) :
    ∃ others, addMissing found (rows.flatMap rowKeys) = found ++ others ∧ Added found rows others := by
  -- The rows are read from the first to the last one, so the last one is taken off.
  induction rows using List.reverseRecOn with
  | nil => exact ⟨[], (List.append_nil found).symm, fun key => by simp, .nil⟩
  | append_singleton rows row ih =>
    obtain ⟨hbefore, hrow⟩ := List.forall_mem_append.mp hrows
    have hrow : row.KeysAscend := hrow row (List.mem_singleton_self row)
    obtain ⟨others, heq, hadded⟩ := ih hbefore
    have hkeys : (rowKeys row).Nodup := (pairwise_rowKeys hrow).imp ne_of_lt
    refine ⟨_, ?_, hadded.concat hrow⟩
    rw [List.flatMap_append, List.flatMap_singleton, addMissing_append, heq, addMissing_of_nodup hkeys,
      List.append_assoc]

lemma pluckedColumns_nodup (hp : p.Built) (rows : List Json) : (pluckedColumns p rows).Nodup :=
  addMissing_nodup (hp.nodup.filter _)

/-- The columns are the keys of the rows. -/
lemma mem_pluckedColumns : key ∈ pluckedColumns p rows ↔ key ∈ rows.flatMap rowKeys := by
  rw [pluckedColumns, mem_addMissing, or_iff_right_of_imp]
  intro h
  simpa using (List.mem_filter.mp h).2

/-- The columns of rows are the keys of the rows, each once. The paths that were asked for and are keys come
first, in the order of the request, and the other keys follow in the order in which the rows first show them,
those that come from one row in ascending order. That the keys of each row ascend is no more than that the
rows are objects in memory. -/
theorem header_lists_keys (hp : p.Built) (hrows : ∀ row ∈ rows, row.KeysAscend) :
    (pluckedColumns p rows).Nodup ∧
    (∀ key, key ∈ pluckedColumns p rows ↔
      ∃ members, Json.object members ∈ rows ∧ key ∈ members.map Prod.fst) ∧
    ∃ requested others, pluckedColumns p rows = requested ++ others ∧
      requested.Sublist p.paths ∧ (∀ key ∈ others, key ∉ p.paths) ∧
      others.Pairwise (ShownBefore rows) := by
  refine ⟨pluckedColumns_nodup hp rows, fun key => mem_pluckedColumns.trans mem_flatMap_rowKeys, ?_⟩
  obtain ⟨others, heq, hadded⟩ :=
    exists_added hrows (p.paths.filter (rows.flatMap rowKeys).contains)
  refine ⟨_, others, heq, List.filter_sublist, fun key hkey hpath => ?_, hadded.ordered⟩
  -- A path that is a key of a row was found, so it stands in front.
  obtain ⟨hnone, hmem⟩ := (hadded.mem_iff key).mp hkey
  exact hnone (List.mem_filter.mpr ⟨hpath, by simpa using hmem⟩)

/-- Posts of which the first two have tags and the last one has none. -/
def posts : List Json :=
  [.object [("name", .string "Ann"), ("tags", .object [("b", .integer 1)])],
   .object [("name", .string "Bob"), ("tags", .object [("a", .integer 2), ("b", .integer 3)])],
   .object [("name", .string "Eve")]]

/-- The tags of the posts stand behind the paths that were asked for, the star among them, which is shown by
the post without tags. -/
theorem posts_header_lists_keys :
    let p := Projection.ofLists ["tags.*, name", "name"]
    let rows := posts.map p.pluck
    p.Built ∧ (∀ row ∈ rows, row.KeysAscend) ∧
      pluckedColumns p rows = ["tags.*", "name", "tags.b", "tags.a"] ∧ (pluckedColumns p rows).Nodup ∧
      (∃ members, Json.object members ∈ rows ∧ "tags.*" ∈ members.map Prod.fst) ∧
      ∃ requested others, pluckedColumns p rows = requested ++ others ∧
        requested.Sublist ["tags.*", "name"] ∧ (∀ key ∈ others, key ∉ ["tags.*", "name"]) ∧
        others.Pairwise (ShownBefore rows) := by
  intro p rows
  have hp : p.Built := .ofLists _
  have hposts : ∀ post ∈ posts, post.KeysAscend := by decide
  have hrows : ∀ row ∈ rows, row.KeysAscend :=
    List.forall_mem_map.mpr fun post hpost => Projection.keysAscend_pluck (hposts post hpost) p
  have hcolumns : pluckedColumns p rows = ["tags.*", "name", "tags.b", "tags.a"] := by decide
  obtain ⟨hnodup, hkeys, hordered⟩ := header_lists_keys hp hrows
  exact ⟨hp, hrows, hcolumns, hnodup, (hkeys "tags.*").mp (by rw [hcolumns]; decide), hordered⟩

/-- Whether or not parts of the rows are asked for, no column is printed twice, and each key of a row that is
printed has a column. -/
theorem shown_columns {view : View} (hs : view.table.schema.Distinct) (config : Config) (r : Request) :
    (shown config r view).1.Nodup ∧
      ∀ row ∈ (shown config r view).2, rowKeys row ⊆ (shown config r view).1 := by
  have hall : (view.table.schema.columns.map Column.name).Nodup ∧
      ∀ row ∈ view.toJson, rowKeys row ⊆ view.table.schema.columns.map Column.name := by
    refine ⟨hs, List.forall_mem_map.mpr fun cells _ key hkey => ?_⟩
    exact Table.mem_names_of_mem_keys hkey
  cases hp : Projection.ofParams? r.params config with
  | none =>
    rw [shown, hp]
    exact hall
  | some p =>
    rw [shown, hp]
    dsimp only
    split_ifs
    · exact hall
    · exact ⟨pluckedColumns_nodup (.ofParams hp) _, fun row hrow key hkey =>
        mem_pluckedColumns.mpr (List.mem_flatMap.mpr ⟨row, hrow, hkey⟩)⟩

end CommandLine

end RowQuery
