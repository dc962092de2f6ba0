import RowQuery.Proofs.Predicate.Lookups
import RowQuery.Proofs.Query.Meaning
import RowQuery.Proofs.Table.Sorted

/-!
The order of rows. The cells of a column are ordered linearly with null first, so comparing rows of a
table by any of its columns, one after the other and each in its direction, orders them
(`compareAll_trans`), and the order is the one that the sort terms mean (`isAtMost_compareAll`).
-/

namespace RowQuery

open Std

/-- Sorting puts the cells of a column in order. -/
lemma ColumnKind.sortCompare_trans (kind : ColumnKind) :
    TransCmp fun v w : {v // kind.Admits v} => Value.sortCompare v w := by
  obtain ⟨β, _, place, h⟩ := ColumnKind.Admits.linear kind
  have hc (v w : {v // kind.Admits v}) :
      Value.sortCompare v w = compare (place v) (place w) := (h v w v.2 w.2).1
  refine { eq_swap := fun {v w} => ?_, isLE_trans := fun {u v w} huv hvw => ?_ }
  · rw [hc, hc]
    exact OrientedCmp.eq_swap
  · rw [hc] at huv hvw ⊢
    exact TransCmp.isLE_trans huv hvw

/-- What sorting takes for less comes first, and what it takes for greater comes last. -/
lemma ColumnKind.sortCompare_iff {kind : ColumnKind} {v w : Value} (hv : kind.Admits v)
    (hw : kind.Admits w) : (v.sortCompare w = .lt ↔ v.precedes w = true) ∧
      (v.sortCompare w = .gt ↔ w.precedes v = true) := by
  obtain ⟨β, _, place, h⟩ := ColumnKind.Admits.linear kind
  rw [(h v w hv hw).1, (h v w hv hw).2, (h w v hw hv).2]
  exact ⟨compare_lt_iff_lt, compare_gt_iff_gt⟩

/-- Cells that sorting takes for equal are so either way round. -/
lemma ColumnKind.sortCompare_eq_comm {kind : ColumnKind} {v w : Value} (hv : kind.Admits v)
    (hw : kind.Admits w) : v.sortCompare w = .eq ↔ w.sortCompare v = .eq := by
  have h := kind.sortCompare_trans.eq_swap (a := ⟨v, hv⟩) (b := ⟨w, hw⟩)
  dsimp only at h
  rw [h, Ordering.swap_eq_eq]

/-- The cell of a column stands under its name. -/
lemma Schema.cell_of_mem_zip {s : Schema} {row : Row} (hs : s.Distinct) {c : Column} {v : Value}
    (hv : (c, v) ∈ s.columns.zip row) : s.cell row c.name = v := by
  rw [cell]
  cases hf : (s.columns.zip row).find? fun x => x.1.name == c.name with
  | none => simpa using List.find?_eq_none.mp hf (c, v) hv
  | some x =>
    have hn : x.1.name = c.name := by simpa using List.find?_some hf
    rw [hs.eq_of_mem_zip (List.mem_of_find?_eq_some hf) hv hn]
    rfl

namespace SortColumn

variable {s : Schema} {a b : Row}

/-- At each place of the rows of a table stand values that one column admits. -/
lemma exists_admits (s : Schema) (i : Nat) :
    ∃ kind : ColumnKind, ∀ row, s.Admits row → kind.Admits (row[i]?.getD .null) := by
  cases hi : s.columns[i]? with
  | some c =>
    refine ⟨c.kind, fun row hr => ?_⟩
    cases hv : row[i]? with
    | some v => exact hr.of_mem_zip (x := (c, v)) (Schema.mem_zip_iff.mpr ⟨i, hi, hv⟩)
    | none => exact .inl rfl
  | none =>
    refine ⟨.char, fun row hr => .inl ?_⟩
    have hlen : row.length ≤ i := by
      rw [← List.Forall₂.length_eq hr]
      exact List.getElem?_eq_none_iff.mp hi
    rw [List.getElem?_eq_none_iff.mpr hlen]
    rfl

/-- Comparing rows at one place orders them. -/
lemma compareRows_trans (s : Schema) (c : SortColumn) :
    TransCmp fun a b : {row // s.Admits row} => c.compareRows a b := by
  obtain ⟨kind, hkind⟩ := exists_admits s c.index
  let cellOf (a : {row // s.Admits row}) : {v // kind.Admits v} := ⟨_, hkind a.1 a.2⟩
  have hcells := kind.sortCompare_trans
  have hup : TransCmp fun a b : {row // s.Admits row} =>
      Value.sortCompare (cellOf a) (cellOf b) :=
    { eq_swap := fun {a b} => hcells.eq_swap (a := cellOf a) (b := cellOf b)
      isLE_trans := fun {a b d} => hcells.isLE_trans (a := cellOf a) (b := cellOf b) (c := cellOf d) }
  cases hd : c.descending with
  | false =>
    have heq : (fun a b : {row // s.Admits row} => c.compareRows a b) =
        fun a b => Value.sortCompare (cellOf a) (cellOf b) := by
      funext a b
      rw [compareRows, hd, if_neg Bool.false_ne_true]
    rw [heq]
    exact hup
  | true =>
    have heq : (fun a b : {row // s.Admits row} => c.compareRows a b) =
        fun a b => Value.sortCompare (cellOf b) (cellOf a) := by
      funext a b
      rw [compareRows, hd, if_pos rfl]
      exact (hup.eq_swap (a := b) (b := a)).symm
    rw [heq]
    exact TransCmp.opposite

/-- Comparing rows place by place orders them. -/
lemma compareAll_trans (s : Schema) (cs : List SortColumn) :
    TransCmp fun a b : {row // s.Admits row} => compareAll cs a b := by
  induction cs with
  | nil => exact { eq_swap := rfl, isLE_trans := fun _ _ => rfl }
  | cons c cs ih =>
    have hc := compareRows_trans s c
    exact inferInstanceAs (TransCmp (compareLex (fun a b : {row // s.Admits row} =>
      c.compareRows a b) fun a b => compareAll cs a b))

/-- Rows that compare equal have equal cells at each place. -/
lemma sortCompare_of_compareAll {cs : List SortColumn} {c : SortColumn}
    (h : compareAll cs a b = .eq) (hc : c ∈ cs) :
    Value.sortCompare (a[c.index]?.getD .null) (b[c.index]?.getD .null) = .eq := by
  induction cs with
  | nil => cases hc
  | cons d ds ih =>
    obtain ⟨hd, hds⟩ := Ordering.then_eq_eq.mp h
    rcases List.mem_cons.mp hc with rfl | hc
    · rw [compareRows] at hd
      split at hd
      · exact Ordering.swap_eq_eq.mp hd
      · exact hd
    · exact ih hds hc

/-- The place that a sort term means. -/
def Means (s : Schema) (t : OrderTerm) (c : SortColumn) : Prop :=
  s.columnIndex? (s.sortName t) = some c.index ∧ c.descending = t.descending

/-- The cell under a name stands at the place of the name. -/
lemma cell_eq (hs : s.Distinct) (ha : s.Admits a) {name : String} {i : Nat}
    (hi : s.columnIndex? name = some i) : s.cell a name = a[i]?.getD .null := by
  obtain ⟨c, hc, rfl⟩ := Schema.exists_of_columnIndex? hi
  obtain ⟨v, hv⟩ := ha.exists_mem_zip (List.mem_of_getElem? hc)
  obtain ⟨j, hj, hvj⟩ := Schema.mem_zip_iff.mp hv
  have hji : j = i := Option.some.inj ((hs.columnIndex? hj).symm.trans hi)
  subst hji
  rw [hvj, Schema.cell_of_mem_zip hs hv]
  rfl

/-- Rows compare at a place by the cells under the column that the sort term names. -/
lemma compareRows_iff (hs : s.Distinct) (ha : s.Admits a) (hb : s.Admits b) {t : OrderTerm}
    {c : SortColumn} (h : Means s t c) :
    let first := s.cell (if t.descending then b else a) (s.sortName t)
    let second := s.cell (if t.descending then a else b) (s.sortName t)
    (c.compareRows a b = .lt ↔ first.precedes second = true) ∧
      (c.compareRows a b = .gt ↔ second.precedes first = true) := by
  obtain ⟨hi, hd⟩ := h
  obtain ⟨kind, hkind⟩ := exists_admits s c.index
  have hcmp := ColumnKind.sortCompare_iff (hkind a ha) (hkind b hb)
  dsimp only
  rw [compareRows, hd]
  cases t.descending with
  | false => simpa [cell_eq hs ha hi, cell_eq hs hb hi] using hcmp
  | true => simpa [cell_eq hs ha hi, cell_eq hs hb hi, Ordering.swap_eq_lt, and_comm] using hcmp

/-- Rows are in order by places iff they are in order by the sort terms that mean the places. -/
lemma isAtMost_compareAll (hs : s.Distinct) (ha : s.Admits a) (hb : s.Admits b)
    {ts : List OrderTerm} {cs : List SortColumn} (h : List.Forall₂ (Means s) ts cs) :
    isAtMost (compareAll cs) a b = s.inOrder ts a b := by
  induction h with
  | nil => rfl
  | @cons t c ts cs htc _ ih =>
    have hcmp := compareRows_iff hs ha hb htc
    dsimp only at hcmp
    rw [Schema.inOrder, ← ih, isAtMost, isAtMost, compareAll]
    cases hc : c.compareRows a b with
    | lt =>
      rw [hcmp.1.mp hc]
      rfl
    | eq =>
      rw [hc] at hcmp
      rw [Bool.eq_false_iff.mpr fun h => Ordering.noConfusion (hcmp.1.mpr h),
        Bool.eq_false_iff.mpr fun h => Ordering.noConfusion (hcmp.2.mpr h)]
      rfl
    | gt =>
      rw [hcmp.2.mp hc]
      rw [hc] at hcmp
      rw [Bool.eq_false_iff.mpr fun h => Ordering.noConfusion (hcmp.1.mpr h)]
      rfl

end SortColumn

end RowQuery
