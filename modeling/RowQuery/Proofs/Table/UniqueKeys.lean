import RowQuery.Proofs.Calendar.Written
import RowQuery.Proofs.Numeric.Plain
import RowQuery.Proofs.Pipeline.Twins
import RowQuery.Proofs.Table.RowOrder

/-!
Tables whose primary keys are unique. The keys are of one type, and numbers, days and moments are read
back from their texts, so different keys have different texts (`Value.Is.text_inj`) and showing the
first row of each key alone shows every row (`selected_eq_filter`). If a view of such a table is ordered
by the key among others, no two of its rows compare equal, and so it does not matter in which order the
table holds them (`Twins.rows_eq`).
-/

namespace RowQuery

open View (Twins)

/-- The texts of values of one type tell them apart. -/
lemma Value.Is.text_inj {e : Expected} {v w : Value} (hv : v.Is e) (hw : w.Is e) (h : v.text = w.text) :
    v = w := by
  have hwrite : v.write = w.write := String.ofList_injective h
  cases hv with
  | boolean a =>
    cases hw with | boolean b =>
    cases a with
    | true =>
      cases b with
      | true => rfl
      | false => cases hwrite
    | false =>
      cases b with
      | true => cases hwrite
      | false => rfl
  | integer m =>
    cases hw with | integer n =>
    rw [Numeric.intDigits_inj hwrite]
  | number x hx =>
    cases hw with | number y hy =>
    rw [Numeric.Binary64.plain_inj hx hy hwrite]
  | string s =>
    cases hw with | string t =>
    rw [String.toList_inj.mp hwrite]
  | date a =>
    cases hw with | date b =>
    rw [Calendar.Date.write_inj hwrite]
  | datetime a =>
    cases hw with | datetime b =>
    rw [Calendar.Timestamp.write_inj hwrite]

/-- Among the values of one type only a text is written like null. -/
lemma Value.Is.eq_string_of_text {e : Expected} {v : Value} (hv : v.Is e) (h : v.text = null.text) :
    v = .string null.text := by
  have hwrite : v.write = null.write := String.ofList_injective h
  -- Values of the other types would be read back from the text of null.
  cases hv with
  | boolean b => cases b <;> cases hwrite
  | integer n =>
    have hread := Numeric.readSigned?_intDigits n
    rw [show Numeric.intDigits n = null.write from hwrite] at hread
    cases hread
  | number x hx =>
    have hread := Numeric.Binary64.readBinary64?_plain hx
    rw [show x.plain = null.write from hwrite] at hread
    cases hread
  | string s => rw [← h, text, write, String.ofList_toList]
  | date d =>
    have hread := Calendar.readDate_write d []
    rw [show d.write = null.write from hwrite] at hread
    cases hread
  | datetime t =>
    have hread := Calendar.readMoment_write t
    rw [show t.write = null.write from hwrite] at hread
    cases hread

/-- Different values of a column have different texts, unless one of them is null and the other one the
text of null. -/
lemma ColumnKind.Admits.text_inj {kind : ColumnKind} {v w : Value} (hv : kind.Admits v)
    (hw : kind.Admits w) (h : v.text = w.text) : v = w ∨
      v = .null ∧ w = .string Value.null.text ∨ v = .string Value.null.text ∧ w = .null := by
  rcases hv with rfl | hv
  · rcases hw with rfl | hw
    · exact .inl rfl
    · exact .inr (.inl ⟨rfl, hw.eq_string_of_text h.symm⟩)
  · rcases hw with rfl | hw
    · exact .inr (.inr ⟨hv.eq_string_of_text h, rfl⟩)
    · exact .inl (hv.text_inj hw h)

namespace Table

/-- The primary key of a row. -/
def keyCell (t : Table) (row : Row) : Value := (row[t.keyIndex]?).getD .null

/-- Every row has a primary key, and no two keys are equal where rows are sorted. -/
structure UniqueKeys (t : Table) : Prop where
  present : ∀ row ∈ t.rows, t.keyCell row ≠ .null
  different : t.rows.Pairwise fun a b => (t.keyCell a).sortCompare (t.keyCell b) ≠ .eq

variable {t : Table} {a b : Row}

/-- The keys of a table are values of one type. -/
lemma UniqueKeys.exists_is (hk : t.UniqueKeys) (ha : ∀ row ∈ t.rows, t.schema.Admits row) :
    ∃ kind : ColumnKind, ∀ row ∈ t.rows, (t.keyCell row).Is kind.expected := by
  obtain ⟨kind, hkind⟩ := SortColumn.exists_admits t.schema t.keyIndex
  exact ⟨kind, fun row hrow => (hkind row (ha row hrow)).resolve_left (hk.present row hrow)⟩

/-- Rows whose keys are equal where rows are sorted are one row. -/
lemma UniqueKeys.eq_of_sortCompare (hk : t.UniqueKeys) (ha : ∀ row ∈ t.rows, t.schema.Admits row)
    (hamem : a ∈ t.rows) (hbmem : b ∈ t.rows)
    (h : (t.keyCell a).sortCompare (t.keyCell b) = .eq) : a = b := by
  obtain ⟨kind, hkind⟩ := hk.exists_is ha
  refine List.Pairwise.forall_of_forall_of_flip
    (R := fun a b => (t.keyCell a).sortCompare (t.keyCell b) = .eq → a = b)
    (fun _ _ _ => rfl) (hk.different.imp fun hne heq => absurd heq hne) ?_ hamem hbmem h
  refine hk.different.imp_of_mem fun {x y} hx hy hne heq => absurd ?_ hne
  exact (ColumnKind.sortCompare_eq_comm (.inr (hkind y hy)) (.inr (hkind x hx))).mp heq

/-- No two keys have one text. -/
lemma UniqueKeys.keyText_ne (hk : t.UniqueKeys) (ha : ∀ row ∈ t.rows, t.schema.Admits row) :
    t.rows.Pairwise fun a b => t.keyText a ≠ t.keyText b := by
  obtain ⟨kind, hkind⟩ := hk.exists_is ha
  refine hk.different.imp_of_mem fun {a b} hamem hbmem hne htext => hne ?_
  have heq : t.keyCell a = t.keyCell b := (hkind a hamem).text_inj (hkind b hbmem) htext
  have hself := kind.sortCompare_trans.eq_swap (a := ⟨t.keyCell a, .inr (hkind a hamem)⟩)
    (b := ⟨t.keyCell a, .inr (hkind a hamem)⟩)
  rw [← heq]
  exact Ordering.eq_eq_of_eq_swap hself

end Table

namespace View

variable {v w : View}

/-- Where no two keys have one text, a view shows every row that it admits. -/
lemma selected_eq_filter
    (h : v.table.rows.Pairwise fun a b => v.table.keyText a ≠ v.table.keyText b) :
    v.selected = v.table.rows.filter v.shows := by
  rw [selected_eq]
  split
  · exact firstOfEach_eq_self (h.filter _) (by simp)
  · rfl

/-- Views that ask the same of one table, with its rows in either order, show their rows in one order
if it is also that of the unique keys. -/
lemma Twins.rows_eq (h : Twins v w) (hp : v.table.rows.Perm w.table.rows) (hk : v.table.UniqueKeys)
    (ha : ∀ row ∈ v.table.rows, v.table.schema.Admits row)
    (hc : ∃ c ∈ v.ordering, c.index = v.table.keyIndex) : v.rows = w.rows := by
  have hkey : w.table.keyText = v.table.keyText := by
    funext row
    rw [Table.keyText, Table.keyText, Table.keyIndex, Table.keyIndex, h.schema]
  have hne := hk.keyText_ne ha
  have hne' : w.table.rows.Pairwise fun a b => w.table.keyText a ≠ w.table.keyText b := by
    rw [hkey]
    exact hne.perm hp fun hab => hab.symm
  have hshows : w.shows = v.shows := by
    funext row
    rw [shows, shows, h.steps, h.empty]
  have hselected : v.selected.Perm w.selected := by
    rw [selected_eq_filter hne, selected_eq_filter hne', hshows]
    exact hp.filter _
  have hmem {row : Row} (hrow : row ∈ v.selected) : row ∈ v.table.rows := mem_of_mem_selected hrow
  rw [rows, rows, ← h.ordering]
  -- Rows that compare equal at every place do so at that of the key.
  refine stableSort_perm_eq (SortColumn.compareAll_trans v.table.schema v.ordering)
    (fun row hrow => ha row (hmem hrow)) hselected fun a hamem b hbmem heq => ?_
  obtain ⟨c, hc, hindex⟩ := hc
  refine hk.eq_of_sortCompare ha (hmem hamem) (hmem hbmem) ?_
  rw [Table.keyCell, Table.keyCell, ← hindex]
  exact SortColumn.sortCompare_of_compareAll heq hc

end View

end RowQuery
