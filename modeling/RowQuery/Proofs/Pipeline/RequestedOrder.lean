import RowQuery.Proofs.Pipeline.Answer
import RowQuery.Proofs.Sorting.Effective
import RowQuery.Proofs.Table.UniqueKeys
import RowQuery.Proofs.Text.Items

/-!
The order that a request asks for by the name of a column. Such a name is one key of the ordering parameter
and stands in the catalog that the table gives by itself, so the request succeeds; it shows every row, sorted
by the cells of the column and by the primary key where these are equal (`sorts_by_requested_column`). One
name means another column: the second name of the primary key is read as such even where a column of the
table has it.
-/

namespace RowQuery

open Outcome

namespace OrderTerm

variable {t : OrderTerm}

/-- A term is read back from its text, unless its name has a hyphen in front. -/
lemma parse_text (h : t.source.toList.head? ≠ some '-') : parse t.text = t := by
  obtain ⟨source, descending⟩ := t
  cases descending with
  | true => exact parse_eq_iff.mpr (.descending source)
  | false => exact parse_eq_iff.mpr (.ascending h)

/-- A term whose name could be a value of a list is written as one item. -/
lemma itemStrings_text (hne : t.source ≠ "") (h : Expression.IsItem t.source) :
    Text.itemStrings t.text = [t.text] := by
  obtain ⟨source, descending⟩ := t
  cases descending with
  | false => exact Text.itemStrings_of_isItem hne h
  | true =>
    have hlist : ("-" ++ source).toList = '-' :: source.toList := String.toList_append
    refine Text.itemStrings_of_isItem (fun hempty => ?_) ⟨?_, ?_⟩
    · rw [text, if_pos rfl, ← String.toList_eq_nil_iff, hlist] at hempty
      cases hempty
    · have htrim : Text.trim source.toList = source.toList := Text.trim_toList h.1
      rw [text, if_pos rfl, Text.trimmed, hlist, Text.trim_cons (by decide) htrim, ← hlist,
        String.ofList_toList]
    · rw [text, if_pos rfl, hlist]
      exact List.not_mem_cons_of_ne_of_not_mem (by decide) h.2

end OrderTerm

namespace SortColumn

variable {s : Schema} {a b : Row} {t : OrderTerm} {c : SortColumn}

/-- Rows compare at the place of a term as the cells under its column do, in its direction. -/
lemma compareRows_eq (hs : s.Distinct) (ha : s.Admits a) (hb : s.Admits b) (h : Means s t c) :
    c.compareRows a b =
      (let order := (s.cell a (s.sortName t)).sortCompare (s.cell b (s.sortName t))
       if t.descending then order.swap else order) := by
  obtain ⟨hi, hd⟩ := h
  rw [cell_eq hs ha hi, cell_eq hs hb hi, ← hd]
  rfl

end SortColumn

namespace Sorting

variable {s : Schema} {a b : Row} {t : OrderTerm} {cs : List SortColumn}

/-- What is in order by a comparison in some direction and by a second one behind it. -/
lemma directed_isLE {first second : Ordering} {descending : Bool}
    (h : ((if descending then first.swap else first).then second).isLE = true) :
    first ≠ (if descending then .lt else .gt) ∧ (first = .eq → second ≠ .gt) := by
  cases descending <;> cases first <;> cases second <;> simp_all

/-- Rows that are in order by a term and the primary key behind it have their cells under the column of
the term in order, and their keys where these are equal. -/
lemma cells_of_isAtMost (hs : s.Distinct) (ha : s.Admits a) (hb : s.Admits b)
    (hcs : List.Forall₂ (SortColumn.Means s) (withKey s.primaryKey [t]) cs)
    (h : isAtMost (SortColumn.compareAll cs) a b = true) :
    let order (name : String) := (s.cell a name).sortCompare (s.cell b name)
    order (s.sortName t) ≠ (if t.descending then .lt else .gt) ∧
      (order (s.sortName t) = .eq → order s.primaryKey ≠ .gt) := by
  intro order
  rw [withKey] at hcs
  split at hcs
  · -- The term sorts by the primary key, which has no second place behind it.
    rename_i hany
    have hkey : s.sortName t = s.primaryKey := sortName_of_sortsByKey (by simpa using hany)
    cases hcs with | cons hc hnil =>
    cases hnil
    rw [isAtMost, SortColumn.compareAll, SortColumn.compareRows_eq hs ha hb hc] at h
    refine ⟨(directed_isLE h).1, fun heq => ?_⟩
    rw [← hkey, heq]
    exact Ordering.noConfusion
  · cases hcs with | cons hc hcs =>
    cases hcs with | cons hk hnil =>
    cases hnil
    have hkey : s.sortName ⟨s.primaryKey, false⟩ = s.primaryKey :=
      sortName_of_sortsByKey (by simp [sortsByKey])
    have hsecond := SortColumn.compareRows_eq hs ha hb hk
    rw [hkey] at hsecond
    rw [isAtMost, SortColumn.compareAll, SortColumn.compareRows_eq hs ha hb hc,
      SortColumn.compareAll, hsecond, SortColumn.compareAll, Ordering.then_eq] at h
    exact directed_isLE h

end Sorting

/-- A table with a column that has the second name of the primary key but is another one. -/
def Dataset.plates : Dataset where
  schema := ⟨"plates", "id", [⟨"id", .autoId⟩, ⟨"pk", .integer⟩]⟩
  rows := [[("id", .integer 1), ("pk", .integer 2)], [("id", .integer 2), ("pk", .integer 1)]]

namespace Pipeline

variable {d : Dataset} {t : Table} {pairs : List (String × String)} {c : Column}

/-- Where every parameter has a meaning of its own, the filter stage leaves a view as it is. -/
lemma applyFilter_eq_self (p : Pipeline)
    (h : (pairs.all fun pair => p.config.isIgnored pair.1) = true)
    (catalog : Except FilterError (Catalog Field)) (v : View) :
    p.applyFilter (d.request pairs) catalog v = .ok v := by
  have hnone : Filter.needsCatalog p.config (d.request pairs) = false := by
    rw [Filter.needsCatalog, Dataset.filters_request_isEmpty, h]
    rfl
  rw [applyFilter, Filter.compile, hnone]
  rfl

/-- A column that can be sorted by is asked for by the term that its name and a direction make. -/
lemma terms_of_column (hs : d.schema.Distinct) (hc : c ∈ d.schema.columns)
    (hkind : c.kind ≠ .relation) (hne : c.name ≠ "") (hitem : Expression.IsItem c.name)
    (hhyphen : c.name.toList.head? ≠ some '-') (descending : Bool) :
    Sorting.terms .usual (d.request [("ordering", OrderTerm.text ⟨c.name, descending⟩)])
      ((d.request [("ordering", OrderTerm.text ⟨c.name, descending⟩)]).keyCatalog none) =
        .ok [⟨c.name, descending⟩] := by
  have hrequested : Sorting.requested .usual
      (d.request [("ordering", OrderTerm.text ⟨c.name, descending⟩)]) =
        [OrderTerm.text ⟨c.name, descending⟩] := by
    rw [Sorting.requested, Dataset.get?_request]
    exact OrderTerm.itemStrings_text hne hitem
  have hkey : (⟨SortKey.ofSchema d.schema⟩ : Catalog SortKey).requireKey c.name =
      .ok (.ofName c.name) := by
    have htype : c.kind.datatype?.isSome = true :=
      Option.isSome_iff_exists.mpr (ColumnKind.exists_datatype? hkind)
    exact Catalog.requireKey_ok_iff.mpr (Catalog.get?_of_mem (OutputSchema.keyCatalog_ofSchema hs)
      (SortKey.mem_ofSchema.mpr ⟨c, hc, htype, rfl⟩))
  have hterms : Sorting.keyTerms ⟨SortKey.ofSchema d.schema⟩ (OrderTerm.text ⟨c.name, descending⟩) =
      .ok [⟨c.name, descending⟩] := by
    rw [Sorting.keyTerms, OrderTerm.parse_text (t := ⟨c.name, descending⟩) hhyphen]
    exact bind_ok_iff.mpr ⟨_, hkey, rfl⟩
  rw [Dataset.keyCatalog_request _ hs, Sorting.terms, Sorting.needsCatalog, hrequested]
  exact bind_ok_iff.mpr ⟨_, rfl, bind_ok_iff.mpr
    ⟨_, mapM_ok_iff.mpr (.cons hterms .nil), rfl⟩⟩

/-- A request whose only parameter is the name of a column as the order, be it with a hyphen before it,
succeeds and shows every row once, sorted by the cells of the column and in ascending order of the primary
keys where these are equal. The name that is the second one of the primary key asks for the cells of the
primary key, whatever column has it. The numbers of the dataset are bounded if it is read from a text
(`Dataset.parse_bounded`). -/
theorem sorts_by_requested_column (hs : d.schema.Distinct) (hb : d.Bounded) (ht : d.table = .ok t)
    (hc : c ∈ d.schema.columns) (hkind : c.kind ≠ .relation) (hne : c.name ≠ "")
    (hitem : Expression.IsItem c.name) (hhyphen : c.name.toList.head? ≠ some '-')
    (descending : Bool) :
    let column := if c.name = Sorting.keyAlias then d.schema.primaryKey else c.name
    let order (a b : Row) (name : String) :=
      (d.schema.cell a name).sortCompare (d.schema.cell b name)
    ∃ w, apply ⟨.usual, none⟩ (d.request [("ordering", OrderTerm.text ⟨c.name, descending⟩)])
        (View.ofTable t) = .ok w ∧ w.rows.Perm t.rows ∧
      w.rows.Pairwise fun a b => order a b column ≠ (if descending then .lt else .gt) ∧
        (order a b column = .eq → order a b d.schema.primaryKey ≠ .gt) := by
  intro column order
  obtain ⟨hschema, hkey, -⟩ := Dataset.table_ok_iff.mp ht
  have hadmits := Dataset.table_admits ht hb
  have hterms := terms_of_column hs hc hkind hne hitem hhyphen descending
  obtain ⟨w, hw⟩ : ∃ w, Sorting.apply
      (Sorting.withKey d.schema.primaryKey [⟨c.name, descending⟩]) (View.ofTable t) = .ok w := by
    rw [← hschema] at hkey hc ⊢
    refine Sorting.exists_apply_withKey hkey fun term hterm => ?_
    obtain rfl := List.mem_singleton.mp hterm
    exact ⟨c, hc, rfl⟩
  obtain ⟨cs, hcs, hwcs⟩ := Sorting.apply_ok_iff.mp hw
  have hcs : List.Forall₂ (SortColumn.Means d.schema)
      (Sorting.withKey d.schema.primaryKey [⟨c.name, descending⟩]) cs := hschema ▸ hcs
  have hrows : w.rows = stableSort (isLess (SortColumn.compareAll cs)) t.rows := by
    have hall : (View.ofTable t).selected = t.rows := List.filter_eq_self.mpr (by simp [View.ofTable])
    rw [hwcs]
    exact congrArg _ hall
  refine ⟨w, ?_, ?_, ?_⟩
  · refine bind_ok_iff.mpr ⟨_, applyFilter_eq_self _ rfl _ _,
      bind_ok_iff.mpr ⟨_, applySearch_eq_self _ rfl _ _, bind_ok_iff.mpr ⟨_, ?_, hw⟩⟩⟩
    have hprimary : DataSource.primaryKey (View.ofTable t) = d.schema.primaryKey :=
      congrArg Schema.primaryKey hschema
    rw [hprimary]
    exact map_ok_iff.mpr ⟨_, hterms, rfl⟩
  · rw [hrows]
    exact stableSort_perm _ _
  · have hsorted := stableSort_sorted_on (SortColumn.compareAll_trans t.schema cs) hadmits
    rw [hrows]
    refine hsorted.imp_of_mem fun ha hb hab => ?_
    have ha := hadmits _ ((stableSort_perm _ _).mem_iff.mp ha)
    have hb := hadmits _ ((stableSort_perm _ _).mem_iff.mp hb)
    exact Sorting.cells_of_isAtMost (t := ⟨c.name, descending⟩) hs (hschema ▸ ha) (hschema ▸ hb) hcs hab

/-- The cities in descending order of their names. -/
theorem cities_sorts_by_name :
    Dataset.cities.schema.Distinct ∧ Dataset.cities.Bounded ∧
      (⟨"name", .char⟩ : Column) ∈ Dataset.cities.schema.columns ∧ Expression.IsItem "name" ∧
      ∃ t w, Dataset.cities.table = .ok t ∧
        apply ⟨.usual, none⟩ (Dataset.cities.request [("ordering", "-name")]) (View.ofTable t) =
          .ok w ∧ w.rows.Perm t.rows ∧
        w.rows.Pairwise fun a b =>
          (Dataset.cities.schema.cell a "name").sortCompare (Dataset.cities.schema.cell b "name") ≠
              .lt ∧
            ((Dataset.cities.schema.cell a "name").sortCompare
                (Dataset.cities.schema.cell b "name") = .eq →
              (Dataset.cities.schema.cell a "id").sortCompare (Dataset.cities.schema.cell b "id") ≠
                .gt) := by
  have hc : (⟨"name", .char⟩ : Column) ∈ Dataset.cities.schema.columns := by decide
  obtain ⟨w, hw, hperm, hsorted⟩ := sorts_by_requested_column (by decide) (by decide)
    Dataset.cities_table hc (by decide) (by decide) (by decide) (by decide) true
  exact ⟨by decide, by decide, hc, by decide, _, w, Dataset.cities_table, hw, hperm, hsorted⟩

/-- The plates are not sorted by the column that is asked for. -/
theorem plates_not_sorted_by_column :
    Dataset.plates.schema.Distinct ∧ Dataset.plates.Bounded ∧
      (⟨"pk", .integer⟩ : Column) ∈ Dataset.plates.schema.columns ∧ Expression.IsItem "pk" ∧
      ∃ t w, Dataset.plates.table = .ok t ∧
        apply ⟨.usual, none⟩ (Dataset.plates.request [("ordering", "pk")]) (View.ofTable t) =
          .ok w ∧
        ¬w.rows.Pairwise fun a b =>
          (Dataset.plates.schema.cell a "pk").sortCompare (Dataset.plates.schema.cell b "pk") ≠
            .gt := by
  have ht : Dataset.plates.table =
      .ok ⟨Dataset.plates.schema, [[.int 1, .int 2], [.int 2, .int 1]]⟩ := rfl
  refine ⟨by decide, by decide, by decide, by decide, _, _, ht, bind_ok_iff.mpr ⟨_, rfl,
    bind_ok_iff.mpr ⟨_, applySearch_eq_self _ rfl _ _, rfl⟩⟩, ?_⟩
  decide

end Pipeline

end RowQuery
