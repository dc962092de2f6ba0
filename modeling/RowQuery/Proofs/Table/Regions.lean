import Mathlib.Tactic.Order
import RowQuery.Proofs.Table.Narrowing

/-!
Comparing and sorting are one order. Beside a value of its column a cell is null, below, the same or
above, and exactly one of these (`Value.region`); each of four comparisons asks for one region, and
sorting by the column puts the regions one behind the other. As sorting is stable, the rows in the order
of a column are the rows that the four comparisons keep, in this order (`View.ordered_in_regions`).
-/

namespace RowQuery

open Outcome CellTest

section Ranks

variable {α : Type} {rank : α → Nat} {xs : List α}

/-- In a list of ascending ranks the elements of one rank stand behind those of the smaller ones. -/
lemma filter_rank_lt_succ (h : xs.Pairwise fun a b => rank a ≤ rank b) (k : Nat) :
    xs.filter (fun x => rank x < k + 1) =
      xs.filter (fun x => rank x < k) ++ xs.filter fun x => rank x = k := by
  induction xs with
  | nil => rfl
  | cons x xs ih =>
    obtain ⟨hx, hxs⟩ := List.pairwise_cons.mp h
    simp only [List.filter_cons, decide_eq_true_eq, ih hxs]
    rcases Nat.lt_trichotomy (rank x) k with hlt | heq | hgt
    · rw [if_pos (by omega), if_pos hlt, if_neg hlt.ne, List.cons_append]
    · -- Nothing behind an element of the rank has a smaller one.
      have hnone : xs.filter (fun x => rank x < k) = [] := by
        refine List.filter_eq_nil_iff.mpr fun y hy => ?_
        have := hx y hy
        simp only [decide_eq_true_eq]
        omega
      rw [if_pos (by omega), if_neg (by omega), if_pos heq, hnone, List.nil_append, List.nil_append]
    · rw [if_neg (by omega), if_neg (by omega), if_neg hgt.ne']

/-- A list of ascending ranks is made of its elements of each rank, one rank behind the other. -/
lemma flatMap_filter_rank {n : Nat} (h : xs.Pairwise fun a b => rank a ≤ rank b)
    (hn : ∀ x ∈ xs, rank x < n) :
    ((List.range n).flatMap fun k => xs.filter fun x => rank x = k) = xs := by
  have upTo (k : Nat) : ((List.range k).flatMap fun k => xs.filter fun x => rank x = k) =
      xs.filter fun x => rank x < k := by
    induction k with
    | zero => exact (List.filter_eq_nil_iff.mpr fun x _ => by simp).symm
    | succ k ih =>
      rw [List.range_succ, List.flatMap_append, ih, List.flatMap_singleton, filter_rank_lt_succ h k]
  rw [upTo, List.filter_eq_self.mpr]
  intro x hx
  exact decide_eq_true (hn x hx)

end Ranks

/-- Where a cell stands beside a value of its column. -/
inductive Region where
  | null
  | less
  | same
  | greater
deriving DecidableEq

namespace Region

/-- The place of a region in ascending order. -/
def rank : Region → Nat
  | null => 0
  | less => 1
  | same => 2
  | greater => 3

lemma rank_lt (r : Region) : r.rank < 4 := by cases r <;> decide

lemma rank_inj {r r' : Region} : r.rank = r'.rank ↔ r = r' := by
  cases r <;> cases r' <;> decide

end Region

/-- The region of a cell beside a value. -/
def Value.region (v cell : Value) : Region :=
  if cell.isNull then .null
  else if cell.below v then .less
  else if v.below cell then .greater
  else .same

section Regions

variable {kind : ColumnKind} {v cell : Value}

/-- A cell is null, less, the same or greater iff it is in the region of this name. -/
lemma ColumnKind.Admits.region_iff (hc : kind.Admits cell) (hv : v.Is kind.expected) :
    cell.isNull = decide (v.region cell = .null) ∧ cell.below v = decide (v.region cell = .less) ∧
      cell.same v = decide (v.region cell = .same) ∧
      v.below cell = decide (v.region cell = .greater) := by
  rcases hc with rfl | hc
  · exact ⟨rfl, rfl, rfl, Value.below_null v⟩
  · obtain ⟨β, _, place, h⟩ := Value.Is.linear kind.expected
    obtain ⟨-, -, hsame, hbelow⟩ := h cell v hc hv
    obtain ⟨-, -, -, habove⟩ := h v cell hv hc
    rw [Value.region, hc.isNull, if_neg Bool.false_ne_true]
    rcases lt_trichotomy (place cell) (place v) with hlt | heq | hgt
    · rw [hbelow.mpr hlt, Bool.eq_false_iff.mpr fun h => hlt.ne (hsame.mp h),
        Bool.eq_false_iff.mpr fun h => hlt.not_gt (habove.mp h)]
      decide
    · rw [hsame.mpr heq, Bool.eq_false_iff.mpr fun h => (hbelow.mp h).ne heq,
        Bool.eq_false_iff.mpr fun h => (habove.mp h).ne heq.symm]
      decide
    · rw [habove.mpr hgt, Bool.eq_false_iff.mpr fun h => hgt.ne' (hsame.mp h),
        Bool.eq_false_iff.mpr fun h => hgt.not_gt (hbelow.mp h)]
      decide

/-- What sorting does not take for greater is in no later region. -/
lemma ColumnKind.Admits.region_le {a b : Value} (ha : kind.Admits a) (hb : kind.Admits b)
    (hv : v.Is kind.expected) (h : (a.sortCompare b).isLE = true) :
    (v.region a).rank ≤ (v.region b).rank := by
  obtain ⟨β, _, place, hplace⟩ := ColumnKind.Admits.linear kind
  have hle : place a ≤ place b := by
    rw [(hplace a b ha hb).1] at h
    exact compare_le_iff_le.mp (Ordering.ne_gt_iff_isLE.mpr h)
  have hregion {cell : Value} (hc : kind.Admits cell) (hn : cell.isNull = false) : v.region cell =
      if place cell < place v then .less else if place v < place cell then .greater else .same := by
    have hbelow := (hplace cell v hc (.inr hv)).2
    have habove := (hplace v cell (.inr hv) hc).2
    simp only [Value.precedes, hv.isNull, hn, Bool.false_and, Bool.false_or] at hbelow habove
    simp only [Value.region, hn, hbelow, habove, Bool.false_eq_true, if_false]
  cases hna : a.isNull with
  | true =>
    rw [Value.region, hna, if_pos rfl]
    exact Nat.zero_le _
  | false =>
    -- Null is not behind a cell that is not null.
    have hnb : b.isNull = false := by
      refine Bool.eq_false_iff.mpr fun hnb => hle.not_gt ((hplace b a hb ha).2.mp ?_)
      rw [Value.precedes, hnb, hna]
      rfl
    rw [hregion ha hna, hregion hb hnb]
    -- Whatever the cells are beside the value, the first is in no later place than the second.
    split_ifs <;> first | decide | (exfalso; order)

end Regions

/-- A row of a table has a cell at the place of a column, which the column admits. -/
lemma Schema.Admits.exists_cell {s : Schema} {row : Row} (h : s.Admits row) {i : Nat} {c : Column}
    (hi : s.columns[i]? = some c) : ∃ cell, row[i]? = some cell ∧ c.kind.Admits cell := by
  have hlt : i < row.length := by
    rw [← List.Forall₂.length_eq h]
    exact (List.getElem?_eq_some_iff.mp hi).1
  have hcell : row[i]? = some row[i] := List.getElem?_eq_getElem hlt
  exact ⟨row[i], hcell, h.of_mem_zip (x := (c, row[i])) (Schema.mem_zip_iff.mpr ⟨i, hi, hcell⟩)⟩

/-- Keeping the rows whose cells of a column compare with a text. -/
def Column.keep (c : Column) (comparison : Comparison) (operand : String) : Call :=
  .filter (.lookup ⟨c.name, comparison, .scalar operand⟩)

/-- Sorting by a column. -/
def Column.ascending (c : Column) : Call := .orderBy [⟨c.name, false⟩]

namespace Table

variable {t : Table} {c : Column} {i : Nat} {comparison : Comparison} {operand : String}
  {test : CellTest}

/-- A table that is asked for something shows the rows. -/
def Answers (t : Table) (calls : List Call) (rows : List Row) : Prop :=
  (Call.applyAll calls (View.ofTable t)).map View.rows = .ok rows

/-- The view of a table in the order of the cells at one place. -/
def orderedAt (t : Table) (i : Nat) : View := { View.ofTable t with ordering := [⟨i, false⟩] }

lemma orderedAt_rows (t : Table) (i : Nat) : (t.orderedAt i).rows =
    stableSort (isLess (SortColumn.compareAll [⟨i, false⟩])) t.rows := by
  have h : (t.orderedAt i).selected = t.rows := List.filter_eq_self.mpr fun _ _ => rfl
  rw [View.rows, h]
  rfl

/-- Where a row stands beside a value, by its cell at one place. -/
def regionAt (i : Nat) (v : Value) (row : Row) : Region := v.region (row[i]?.getD .null)

/-- The rows in one region beside a value, in the order of the cells at one place. -/
def inRegion (t : Table) (i : Nat) (v : Value) (r : Region) : List Row :=
  (t.orderedAt i).rows.filter fun row => regionAt i v row = r

lemma mem_orderedAt {row : Row} : row ∈ (t.orderedAt i).rows ↔ row ∈ t.rows := by
  rw [orderedAt_rows]
  exact (stableSort_perm _ _).mem_iff

lemma mem_inRegion {v : Value} {r : Region} {row : Row} (h : row ∈ t.rows) :
    row ∈ t.inRegion i v r ↔ regionAt i v row = r := by
  simp [inRegion, mem_orderedAt, h]

section Calls

variable (hs : t.schema.Distinct) (hi : t.schema.columns[i]? = some c)

include hs hi

lemma apply_keep (hm : Made c.kind comparison (.scalar operand) test) :
    (c.keep comparison operand).apply (View.ofTable t) =
      .ok ((View.ofTable t).addSteps [.keep (.cell i test)]) := by
  show Except.map _ (RowTest.ofLookup t.schema _) = _
  rw [RowTest.ofLookup_column hs hi, ofLookup_ok_iff.mpr hm]
  rfl

lemma apply_ascending (hpk : c.name = Sorting.keyAlias → c.name = t.schema.primaryKey) {w : View}
    (hw : w.table = t) : c.ascending.apply w = .ok { w with ordering := [⟨i, false⟩] } := by
  subst hw
  have hname : (if c.name = "pk" then w.table.schema.primaryKey else c.name) = c.name := by
    split
    · rename_i h
      exact (hpk h).symm
    · rfl
  have hplace : View.sortColumn w.table.schema ⟨c.name, false⟩ = .ok ⟨i, false⟩ := by
    rw [View.sortColumn]
    dsimp only
    rw [hname, hs.columnIndex? hi]
  show Except.map _ (List.mapM _ [_]) = _
  rw [List.mapM_cons, hplace]
  rfl

end Calls

section Admitted

variable {v : Value} (hi : t.schema.columns[i]? = some c)
  (ha : ∀ row ∈ t.rows, t.schema.Admits row)

include hi ha

/-- Where rows are in the order of a column, their regions ascend. -/
lemma orderedAt_ascends (hv : v.Is c.kind.expected) :
    (t.orderedAt i).rows.Pairwise fun a b => (regionAt i v a).rank ≤ (regionAt i v b).rank := by
  have hsorted := stableSort_sorted_on (SortColumn.compareAll_trans t.schema [⟨i, false⟩]) ha
  rw [← orderedAt_rows] at hsorted
  refine hsorted.imp_of_mem fun {a b} hma hmb hle => ?_
  obtain ⟨x, hx, hxa⟩ := (ha a (mem_orderedAt.mp hma)).exists_cell hi
  obtain ⟨y, hy, hya⟩ := (ha b (mem_orderedAt.mp hmb)).exists_cell hi
  have hcompare : SortColumn.compareAll [⟨i, false⟩] a b = x.sortCompare y := by
    simp [SortColumn.compareAll, SortColumn.compareRows, hx, hy]
  rw [isAtMost, hcompare] at hle
  rw [regionAt, regionAt, hx, hy]
  exact hxa.region_le hya hv hle

/-- Rows in the order of a column are in one region behind the other. -/
lemma inRegion_append (hv : v.Is c.kind.expected) : t.inRegion i v .null ++ t.inRegion i v .less ++
    t.inRegion i v .same ++ t.inRegion i v .greater = (t.orderedAt i).rows := by
  have hrank (r : Region) :
      ((t.orderedAt i).rows.filter fun row => (regionAt i v row).rank = r.rank) = t.inRegion i v r :=
    List.filter_congr fun row _ => decide_eq_decide.mpr Region.rank_inj
  have hfour : List.range 4 = [Region.null, .less, .same, .greater].map Region.rank := rfl
  have h := flatMap_filter_rank (orderedAt_ascends hi ha hv) fun row _ => Region.rank_lt _
  simp only [hfour, List.flatMap_map, hrank] at h
  simpa using h

/-- A test that asks for regions passes the rows of these regions. -/
lemma any_holds_eq {P : Region → Prop} [DecidablePred P] {row : Row} (hr : row ∈ t.rows)
    (h : ∀ cell, c.kind.Admits cell → test.holds cell = decide (P (v.region cell))) :
    (row[i]?).any test.holds = decide (P (regionAt i v row)) := by
  obtain ⟨cell, hcell, hadmits⟩ := (ha row hr).exists_cell hi
  rw [regionAt, hcell]
  exact h cell hadmits

variable (hs : t.schema.Distinct)

include hs

/-- A comparison that asks for one region keeps the rows of the region, and sorting orders them. -/
lemma answers_region (hpk : c.name = Sorting.keyAlias → c.name = t.schema.primaryKey) {r : Region}
    (hm : Made c.kind comparison (.scalar operand) test)
    (h : ∀ cell, c.kind.Admits cell → test.holds cell = decide (v.region cell = r)) :
    t.Answers [c.keep comparison operand, c.ascending] (t.inRegion i v r) := by
  rw [Answers, Call.applyAll, List.foldlM_cons, apply_keep hs hi hm]
  show Except.map _ ((c.ascending.apply _).bind _) = _
  rw [apply_ascending hs hi hpk rfl]
  have ho : (t.orderedAt i).Consistent := View.consistent_of_admits ha
  have hk : (t.orderedAt i).AnswersKeys fun row => Step.admits row (.keep (.cell i test)) :=
    fun hd => absurd hd Bool.false_ne_true
  refine congrArg Except.ok ((View.rows_addSteps _ hk ho).trans ?_)
  refine List.filter_congr fun row hrow => ?_
  exact any_holds_eq (P := fun x => x = r) hi ha (mem_orderedAt.mp hrow) h

/-- A comparison that asks for two regions keeps the rows of both. -/
lemma answers_regions {r r' : Region} (hm : Made c.kind comparison (.scalar operand) test)
    (h : ∀ cell, c.kind.Admits cell →
      test.holds cell = decide (v.region cell = r ∨ v.region cell = r')) :
    t.Answers [c.keep comparison operand]
      (t.rows.filter fun row => row ∈ t.inRegion i v r ∨ row ∈ t.inRegion i v r') := by
  rw [Answers, Call.applyAll, List.foldlM_cons, apply_keep hs hi hm]
  have ho : (View.ofTable t).Consistent := View.consistent_of_admits ha
  have hk : (View.ofTable t).AnswersKeys fun row => Step.admits row (.keep (.cell i test)) :=
    fun hd => absurd hd Bool.false_ne_true
  refine congrArg Except.ok ((View.rows_addSteps _ hk ho).trans ?_)
  rw [View.rows_ofTable]
  refine List.filter_congr fun row hrow => ?_
  refine (any_holds_eq (P := fun x => x = r ∨ x = r') hi ha hrow h).trans ?_
  simp only [mem_inRegion hrow]

end Admitted

end Table

namespace View

/-- Beside what the operand of a comparison is read as, the rows in the order of a column are those whose
cell is null, those that are less, those that are equal and those that are greater, each in the order of
the column; the comparisons that allow equality keep the rows of two of these. The numbers of the dataset
are bounded if it is read from a text (`Dataset.parse_bounded`). -/
theorem ordered_in_regions {d : Dataset} {t : Table} (hs : d.schema.Distinct) (hb : d.Bounded)
    (ht : d.table = .ok t) {c : Column} (hc : c ∈ d.schema.columns)
    (hpk : c.name = Sorting.keyAlias → c.name = d.schema.primaryKey) {x path : String} {v : Value}
    (hx : c.kind.coerce x path = .ok v) :
    ∃ nulls less same greater,
      t.Answers [c.ascending] (nulls ++ less ++ same ++ greater) ∧
      t.Answers [c.keep .isNull "1", c.ascending] nulls ∧
      t.Answers [c.keep .less x, c.ascending] less ∧
      t.Answers [c.keep .exact x, c.ascending] same ∧
      t.Answers [c.keep .greater x, c.ascending] greater ∧
      t.Answers [c.keep .atMost x] (t.rows.filter fun row => row ∈ less ∨ row ∈ same) ∧
      t.Answers [c.keep .atLeast x] (t.rows.filter fun row => row ∈ same ∨ row ∈ greater) := by
  obtain ⟨hschema, -, -⟩ := Dataset.table_ok_iff.mp ht
  have ha := Dataset.table_admits ht hb
  rw [← hschema] at hs hc hpk
  obtain ⟨i, hi⟩ := List.getElem?_of_mem hc
  have hread := ColumnKind.coerce_ok_iff.mp hx
  have hv := ColumnKind.read?_is hread
  refine ⟨t.inRegion i v .null, t.inRegion i v .less, t.inRegion i v .same,
    t.inRegion i v .greater, ?_, ?_, ?_, ?_, ?_, ?_, ?_⟩
  · rw [Table.inRegion_append hi ha hv, Table.Answers, Call.applyAll, List.foldlM_cons,
      Table.apply_ascending hs hi hpk rfl]
    rfl
  · refine Table.answers_region hi ha hs hpk (.isNull (n := 1) rfl) fun cell hcell => ?_
    rw [← (hcell.region_iff hv).1]
    rcases hcell with rfl | hcell
    · rfl
    · rw [holds_of_is _ hcell, hcell.isNull]
      rfl
  · refine Table.answers_region hi ha hs hpk (.less hread) fun cell hcell => ?_
    rw [holds_less hcell hv, (hcell.region_iff hv).2.1]
  · refine Table.answers_region hi ha hs hpk (.exact hread) fun cell hcell => ?_
    rw [holds_exact hcell hv, (hcell.region_iff hv).2.2.1]
  · refine Table.answers_region hi ha hs hpk (.greater hread) fun cell hcell => ?_
    rw [holds_greater hcell hv, (hcell.region_iff hv).2.2.2]
  · refine Table.answers_regions hi ha hs (.atMost hread) fun cell hcell => ?_
    obtain ⟨-, hbelow, hsame, -⟩ := hcell.region_iff hv
    rw [holds_atMost hcell hv, hbelow, hsame, Bool.decide_or]
  · refine Table.answers_regions hi ha hs (.atLeast hread) fun cell hcell => ?_
    obtain ⟨-, -, hsame, habove⟩ := hcell.region_iff hv
    rw [holds_atLeast hcell hv, habove, hsame, Bool.decide_or, Bool.or_comm]

/-- Beside Rome stand a city without a name and Rome itself. -/
theorem cities_ordered_in_regions : ∃ t, Dataset.cities.table = .ok t ∧
    ColumnKind.char.coerce "Rome" "name" = .ok (.string "Rome") ∧
    ∃ nulls less same greater,
      t.Answers [Column.ascending ⟨"name", .char⟩] (nulls ++ less ++ same ++ greater) ∧
      t.Answers [Column.keep ⟨"name", .char⟩ .isNull "1", Column.ascending ⟨"name", .char⟩] nulls ∧
      t.Answers [Column.keep ⟨"name", .char⟩ .less "Rome", Column.ascending ⟨"name", .char⟩] less ∧
      t.Answers [Column.keep ⟨"name", .char⟩ .exact "Rome", Column.ascending ⟨"name", .char⟩] same ∧
      t.Answers [Column.keep ⟨"name", .char⟩ .greater "Rome", Column.ascending ⟨"name", .char⟩]
        greater ∧
      t.Answers [Column.keep ⟨"name", .char⟩ .atMost "Rome"]
        (t.rows.filter fun row => row ∈ less ∨ row ∈ same) ∧
      t.Answers [Column.keep ⟨"name", .char⟩ .atLeast "Rome"]
        (t.rows.filter fun row => row ∈ same ∨ row ∈ greater) := by
  have hc : ⟨"name", .char⟩ ∈ Dataset.cities.schema.columns :=
    List.mem_cons_of_mem _ List.mem_cons_self
  have hx : ColumnKind.char.coerce "Rome" "name" = .ok (.string "Rome") := rfl
  exact ⟨_, Dataset.cities_table, hx,
    ordered_in_regions (by decide) (by decide) Dataset.cities_table hc (by decide) hx⟩

end View

end RowQuery
