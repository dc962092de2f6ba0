import RowQuery.Projection
import RowQuery.Proofs.Params
import RowQuery.Proofs.Text.Items

/-!
The items of comma-separated lists. A comma between two lists is one like any other, so lists that are
given one by one have the items of the list that they make together (`itemStrings_intercalate`), and an
item is the only item of itself. So which of the two spellings a client takes makes no difference, nor does
collecting the items once more: `collectItems_canonical`.
-/

namespace RowQuery

namespace Text

variable {item : String} {cs : List Char}

/-- Trimming leaves nothing to be trimmed. -/
lemma trim_trim (cs : List Char) : trim (trim cs) = trim cs := by
  obtain ⟨before, after, hb, ha, hcs⟩ := exists_blanks_around cs
  calc trim (trim cs) = trim (before ++ trim cs ++ after) := (trim_blanks_around hb ha _).symm
    _ = trim cs := by rw [← hcs]

lemma mem_of_mem_trim {c : Char} (h : c ∈ trim cs) : c ∈ cs := by
  obtain ⟨before, after, -, -, hcs⟩ := exists_blanks_around cs
  rw [hcs]
  exact List.mem_append_left _ (List.mem_append_right _ h)

/-- The trimmed texts between the commas of a string, empty ones included. -/
def segments (s : String) : List String :=
  (s.toList.splitOn ',').map fun piece => trimmed (String.ofList piece)

/-- The items are the segments that are not empty. -/
lemma itemStrings_eq (s : String) : itemStrings s = (segments s).filter (· ≠ "") := by
  have htrimmed (piece : List Char) : trimmed (String.ofList piece) = String.ofList (trim piece) := by
    rw [trimmed, String.toList_ofList]
  rw [itemStrings, items, splitOn_eq, segments, List.filter_map, List.filter_map, List.map_map]
  simp only [htrimmed]
  refine congrArg _ (List.filter_congr fun piece _ => ?_)
  cases htrim : trim piece with
  | nil => simp [htrim]
  | cons c rest => simp [htrim, ← String.toList_eq_nil_iff]

/-- An item is neither empty nor blank at its ends, and there is no comma in it. -/
lemma isItem_of_mem_itemStrings {s : String} (h : item ∈ itemStrings s) :
    item ≠ "" ∧ Expression.IsItem item := by
  obtain ⟨text, htext, rfl⟩ := List.mem_map.mp h
  obtain ⟨htrim, hsome⟩ := List.mem_filter.mp htext
  obtain ⟨piece, hpiece, rfl⟩ := List.mem_map.mp htrim
  refine ⟨fun hempty => ?_, ?_, fun hcomma => ?_⟩
  · rw [← String.toList_eq_nil_iff, String.toList_ofList] at hempty
    simp [hempty] at hsome
  · rw [trimmed, String.toList_ofList, trim_trim]
  · rw [String.toList_ofList] at hcomma
    exact not_mem_of_mem_splitOn hpiece (mem_of_mem_trim hcomma)

/-- A comma parts the items before it from those behind it. -/
lemma items_append_cons (before after : List Char) :
    items (before ++ ',' :: after) = items before ++ items after := by
  rw [items, splitOn_eq, List.splitOn_append_cons_self, List.map_append, List.filter_append,
    ← splitOn_eq, ← splitOn_eq, ← items, ← items]

/-- Texts with commas between them have the items of the texts. -/
lemma itemStrings_intercalate (lists : List String) :
    itemStrings (",".intercalate lists) = lists.flatMap itemStrings := by
  induction lists with
  | nil => rfl
  | cons list lists ih =>
    cases lists with
    | nil => rw [String.intercalate_singleton, List.flatMap_singleton]
    | cons next lists =>
      rw [String.intercalate_cons_cons, List.flatMap_cons, ← ih, itemStrings, String.toList_append,
        String.toList_append]
      show (items (list.toList ++ [','] ++ _)).map String.ofList = _
      rw [List.append_assoc, List.singleton_append, items_append_cons, List.map_append]
      rfl

end Text

section Missing

variable {found items : List String} {item : String}

lemma addMissing_cons (found items : List String) (item : String) :
    addMissing found (item :: items) =
      addMissing (if item ∈ found then found else found ++ [item]) items := rfl

lemma addMissing_append (found xs ys : List String) :
    addMissing found (xs ++ ys) = addMissing (addMissing found xs) ys := List.foldl_append

/-- Nothing is added twice. -/
lemma addMissing_nodup (h : found.Nodup) : (addMissing found items).Nodup := by
  induction items generalizing found with
  | nil => exact h
  | cons item items ih =>
    rw [addMissing_cons]
    split_ifs with hitem
    · exact ih h
    · exact ih (h.append (List.nodup_singleton item) (List.disjoint_singleton.mpr hitem))

/-- From the empty list on, the items are added in the order in which they first appear. -/
lemma addMissing_nil (items : List String) : addMissing [] items = items.eraseDups := by
  induction items using List.reverseRecOn with
  | nil => rfl
  | append_singleton items item ih =>
    rw [addMissing, List.foldl_concat, ← addMissing, ih, eraseDups_concat]
    simp only [List.mem_eraseDups]

lemma mem_addMissing : item ∈ addMissing found items ↔ item ∈ found ∨ item ∈ items := by
  induction items generalizing found with
  | nil => simp [addMissing]
  | cons next items ih =>
    rw [addMissing_cons, ih, List.mem_cons, ← or_assoc]
    split_ifs with hnext
    · simp only [or_iff_left_of_imp fun heq : item = next => heq ▸ hnext]
    · rw [List.mem_append, List.mem_singleton]

/-- Different items are added as they stand, without those that are there. -/
lemma addMissing_of_nodup (h : items.Nodup) :
    addMissing found items = found ++ items.filter (· ∉ found) := by
  induction items using List.reverseRecOn with
  | nil => simp [addMissing]
  | append_singleton items item ih =>
    obtain ⟨hitems, -, hnew⟩ := List.nodup_append.mp h
    have hitem : item ∉ items := fun hmem => hnew item hmem item (List.mem_singleton_self item) rfl
    have hmem : item ∈ found ++ items.filter (· ∉ found) ↔ item ∈ found := by
      rw [List.mem_append, or_iff_left fun hfilter => hitem (List.mem_of_mem_filter hfilter)]
    rw [addMissing, List.foldl_concat, ← addMissing, ih hitems, List.filter_append]
    by_cases hfound : item ∈ found
    · rw [if_pos (hmem.mpr hfound), List.filter_cons_of_neg (by simpa using hfound), List.filter_nil,
        List.append_nil]
    · rw [if_neg (mt hmem.mp hfound), List.filter_cons_of_pos (by simpa using hfound), List.filter_nil,
        List.append_assoc]

/-- Different items are all added. -/
lemma addMissing_nil_of_nodup (h : items.Nodup) : addMissing [] items = items := by
  rw [addMissing_of_nodup h, List.nil_append, List.filter_eq_self.mpr (by simp)]

end Missing

lemma collectItems_nodup (lists : List String) : (collectItems lists).Nodup :=
  addMissing_nodup List.nodup_nil

lemma mem_collectItems {lists : List String} {item : String} :
    item ∈ collectItems lists ↔ ∃ list ∈ lists, item ∈ Text.itemStrings list := by
  rw [collectItems, addMissing_nil, List.mem_eraseDups, List.mem_flatMap]

/-- What is collected from lists are their trimmed segments that are not empty, each once and in the order
in which they first appear. Neither joining the lists with commas nor collecting what is collected already
makes a difference. -/
theorem collectItems_canonical (lists : List String) :
    (collectItems lists).Nodup ∧
    (∀ item ∈ collectItems lists, item ≠ "" ∧ Text.trimmed item = item ∧ ',' ∉ item.toList) ∧
    collectItems lists = ((lists.flatMap Text.segments).filter (· ≠ "")).eraseDups ∧
    collectItems [",".intercalate lists] = collectItems lists ∧
    collectItems (collectItems lists) = collectItems lists := by
  have hitem (item : String) (h : item ∈ collectItems lists) : item ≠ "" ∧ Expression.IsItem item := by
    obtain ⟨list, -, hlist⟩ := mem_collectItems.mp h
    exact Text.isItem_of_mem_itemStrings hlist
  have hnodup : (collectItems lists).Nodup := collectItems_nodup lists
  refine ⟨hnodup, hitem, ?_, ?_, ?_⟩
  · rw [collectItems, addMissing_nil, List.filter_flatMap, funext Text.itemStrings_eq]
  · rw [collectItems, List.flatMap_singleton, Text.itemStrings_intercalate, collectItems]
  · -- What is collected are items, and none of them is there twice.
    have hself : (collectItems lists).flatMap Text.itemStrings = collectItems lists := by
      rw [List.flatMap_congr fun item h => Text.itemStrings_of_isItem (hitem item h).1 (hitem item h).2,
        List.flatMap_singleton']
    rw [collectItems, hself]
    exact addMissing_nil_of_nodup hnodup

end RowQuery
