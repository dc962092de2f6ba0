import RowQuery.Proofs.Table.Narrowing

/-!
The places that a view looks at. Each row of a table has a cell for each column, and the name of a column
leads to its place, so whatever a table is asked for, the places of the tests, of the order and of the primary
key lie in every row (`View.InRange`): each call keeps this, and so does a run of calls. The total functions
that show a view know what to answer where there is no cell; the ones of this module fail there (`View.rows?`),
and they show the same: `looks_in_range`.
-/

namespace RowQuery

open Outcome

/-- The place of a name is one of a column. -/
lemma Schema.columnIndex?_lt {s : Schema} {name : String} {i : Nat} (h : s.columnIndex? name = some i) :
    i < s.columns.length := by
  obtain ⟨c, hc, -⟩ := exists_of_columnIndex? h
  exact (List.getElem?_eq_some_iff.mp hc).1

namespace RowTest

mutual

/-- The places that a test looks at. -/
def places : RowTest → List Nat
  | cell index _ => [index]
  | and children => placesOf children
  | or children => placesOf children
  | not child => places child

/-- The places that the tests look at. -/
def placesOf : List RowTest → List Nat
  | [] => []
  | test :: tests => places test ++ placesOf tests

end

mutual

/-- Whether a row passes the test, if it has the cells that the test looks at. -/
def holds? (row : Row) : RowTest → Option Bool
  | cell index test => (row[index]?).map test.holds
  | and children => allHold? row children
  | or children => someHolds? row children
  | not child => (holds? row child).map Bool.not

/-- Whether a row passes every test. Behind a test that it does not pass none is made. -/
def allHold? (row : Row) : List RowTest → Option Bool
  | [] => some true
  | test :: tests => do if ← holds? row test then allHold? row tests else return false

/-- Whether a row passes some test. Behind a test that it passes none is made. -/
def someHolds? (row : Row) : List RowTest → Option Bool
  | [] => some false
  | test :: tests => do if ← holds? row test then return true else someHolds? row tests

end

/-- Induction over a test, with a hypothesis for each child. -/
@[elab_as_elim, induction_eliminator]
theorem induct {motive : RowTest → Prop} (cell : ∀ index test, motive (.cell index test))
    (and : ∀ children, (∀ test ∈ children, motive test) → motive (.and children))
    (or : ∀ children, (∀ test ∈ children, motive test) → motive (.or children))
    (not : ∀ child, motive child → motive (.not child)) (test : RowTest) : motive test := by
  cases test with
  | cell index test => exact cell index test
  | and children => exact and children fun test _ => induct cell and or not test
  | or children => exact or children fun test _ => induct cell and or not test
  | not child => exact not child (induct cell and or not child)

variable {row : Row} {tests : List RowTest} {test : RowTest} {s : Schema} {n : Nat}

lemma placesOf_eq (tests : List RowTest) : placesOf tests = tests.flatMap places := by
  induction tests with
  | nil => rfl
  | cons test tests ih => rw [placesOf, ih, List.flatMap_cons]

lemma lt_of_mem_placesOf : (∀ i ∈ placesOf tests, i < n) ↔ ∀ test ∈ tests, ∀ i ∈ test.places, i < n := by
  rw [placesOf_eq]
  simp only [List.mem_flatMap]
  exact ⟨fun h test ht i hi => h i ⟨test, ht, hi⟩, fun h i ⟨test, ht, hi⟩ => h test ht i hi⟩

lemma allHold?_eq (h : ∀ test ∈ tests, holds? row test = some (holds row test)) :
    allHold? row tests = some (allHold row tests) := by
  induction tests with
  | nil => rfl
  | cons test tests ih =>
    obtain ⟨htest, htests⟩ := List.forall_mem_cons.mp h
    rw [allHold?, htest, allHold, ih htests]
    cases holds row test <;> rfl

lemma someHolds?_eq (h : ∀ test ∈ tests, holds? row test = some (holds row test)) :
    someHolds? row tests = some (someHolds row tests) := by
  induction tests with
  | nil => rfl
  | cons test tests ih =>
    obtain ⟨htest, htests⟩ := List.forall_mem_cons.mp h
    rw [someHolds?, htest, someHolds, ih htests]
    cases holds row test <;> rfl

/-- A test answers for every row that has the cells that it looks at. -/
lemma holds?_eq (h : ∀ i ∈ test.places, i < row.length) : test.holds? row = some (test.holds row) := by
  induction test with
  | cell index test =>
    have hcell := List.getElem?_eq_getElem (h index (List.mem_singleton_self index))
    rw [holds?, holds, hcell]
    rfl
  | and children ih =>
    exact allHold?_eq fun test ht => ih test ht (lt_of_mem_placesOf.mp h test ht)
  | or children ih =>
    exact someHolds?_eq fun test ht => ih test ht (lt_of_mem_placesOf.mp h test ht)
  | not child ih =>
    rw [holds?, ih h]
    rfl

/-- The test that a condition means for a table looks at places of columns. -/
lemma places_lt {p : Predicate} (h : ofPredicate s p = .ok test) :
    ∀ i ∈ test.places, i < s.columns.length := by
  have hchildren {ps : List Predicate} {tests : List RowTest} (h : ofPredicates s ps = .ok tests)
      (ih : ∀ p ∈ ps, ∀ {test}, ofPredicate s p = .ok test → ∀ i ∈ test.places, i < s.columns.length) :
      ∀ i ∈ placesOf tests, i < s.columns.length := by
    rw [Predicate.ofPredicates_eq, mapM_ok_iff] at h
    refine lt_of_mem_placesOf.mpr fun test ht => ?_
    obtain ⟨p, hp, htest⟩ := exists_of_mem_right h test ht
    exact ih p hp htest
  induction p generalizing test with
  | lookup l =>
    rw [ofPredicate, ofLookup] at h
    split at h
    · rename_i index column hindex _
      obtain ⟨_, -, rfl⟩ := map_ok_iff.mp h
      -- The place of a name is that of a column.
      simpa [places] using Schema.columnIndex?_lt hindex
    · cases h
  | and children ih =>
    obtain ⟨tests, htests, rfl⟩ := map_ok_iff.mp h
    exact hchildren htests ih
  | or children ih =>
    obtain ⟨tests, htests, rfl⟩ := map_ok_iff.mp h
    exact hchildren htests ih
  | not child ih =>
    obtain ⟨test, htest, rfl⟩ := map_ok_iff.mp h
    have hchild : ∀ i ∈ test.places, i < s.columns.length := ih htest
    exact hchild

end RowTest

namespace Step

/-- The test of a step. -/
def test : Step → RowTest
  | keep test => test
  | drop test => test

/-- Whether a row meets a step, if it has the cells that the step looks at. -/
def admits? (row : Row) : Step → Option Bool
  | keep test => test.holds? row
  | drop test => (test.holds? row).map Bool.not

lemma admits?_eq {st : Step} {row : Row} (h : ∀ i ∈ st.test.places, i < row.length) :
    st.admits? row = some (st.admits row) := by
  cases st with
  | keep test => exact RowTest.holds?_eq h
  | drop test =>
    have htest : test.holds? row = some (test.holds row) := RowTest.holds?_eq h
    rw [admits?, htest]
    rfl

end Step

namespace SortColumn

/-- How two rows compare at one place, if both have a cell there. -/
def compareRows? (c : SortColumn) (a b : Row) : Option Ordering := do
  let order := Value.sortCompare (← a[c.index]?) (← b[c.index]?)
  return if c.descending then order.swap else order

/-- How two rows compare, if they have the cells at the places up to the first one at which they differ. -/
def compareAll? : List SortColumn → Row → Row → Option Ordering
  | [], _, _ => some .eq
  | c :: cs, a, b => do
    match ← c.compareRows? a b with
    | .eq => compareAll? cs a b
    | order => return order

lemma compareRows?_eq {c : SortColumn} {a b : Row} (ha : c.index < a.length) (hb : c.index < b.length) :
    c.compareRows? a b = some (c.compareRows a b) := by
  rw [compareRows?, compareRows, List.getElem?_eq_getElem ha, List.getElem?_eq_getElem hb]
  rfl

lemma compareAll?_eq {cs : List SortColumn} {a b : Row} (ha : ∀ c ∈ cs, c.index < a.length)
    (hb : ∀ c ∈ cs, c.index < b.length) : compareAll? cs a b = some (compareAll cs a b) := by
  induction cs with
  | nil => rfl
  | cons c cs ih =>
    obtain ⟨hac, hacs⟩ := List.forall_mem_cons.mp ha
    obtain ⟨hbc, hbcs⟩ := List.forall_mem_cons.mp hb
    rw [compareAll?, compareRows?_eq hac hbc, compareAll, ih hacs hbcs]
    cases c.compareRows a b <;> rfl

end SortColumn

section Lists

-- The functions on lists that a view is shown with, where comparisons may fail and keys may be missing.
variable {α : Type} {xs : List α}

def insertDescending? (less? : α → α → Option Bool) (x : α) : List α → Option (List α)
  | [] => some [x]
  | y :: ys => do
    if ← less? x y then return y :: (← insertDescending? less? x ys) else return x :: y :: ys

def stableSort? (less? : α → α → Option Bool) (xs : List α) : Option (List α) :=
  (xs.foldlM (fun sorted x => insertDescending? less? x sorted) []).map List.reverse

def firstOfEach? (key? : α → Option String) (seen : List String) : List α → Option (List α)
  | [] => some []
  | x :: xs => do
    let key ← key? x
    if key ∈ seen then firstOfEach? key? seen xs
    else return x :: (← firstOfEach? key? (key :: seen) xs)

lemma insertDescending?_eq {less? : α → α → Option Bool} {less : α → α → Bool} {x : α} {ys : List α}
    (h : ∀ y ∈ ys, less? x y = some (less x y)) :
    insertDescending? less? x ys = some (insertDescending less x ys) := by
  induction ys with
  | nil => rfl
  | cons y ys ih =>
    obtain ⟨hy, hys⟩ := List.forall_mem_cons.mp h
    rw [insertDescending?, hy, ih hys, insertDescending]
    cases less x y <;> rfl

/-- A sort does not fail whose comparisons of elements of the list do not. -/
lemma stableSort?_eq {less? : α → α → Option Bool} {less : α → α → Bool}
    (h : ∀ a ∈ xs, ∀ b ∈ xs, less? a b = some (less a b)) :
    stableSort? less? xs = some (stableSort less xs) := by
  have fold (rest sorted : List α) (hrest : ∀ x ∈ rest, x ∈ xs) (hsorted : ∀ x ∈ sorted, x ∈ xs) :
      rest.foldlM (fun sorted x => insertDescending? less? x sorted) sorted =
        some (rest.foldl (fun sorted x => insertDescending less x sorted) sorted) := by
    -- What is sorted so far are elements of the list, so what compares with them does not fail.
    induction rest generalizing sorted with
    | nil => rfl
    | cons x rest ih =>
      obtain ⟨hx, hrest⟩ := List.forall_mem_cons.mp hrest
      rw [List.foldlM_cons, insertDescending?_eq fun y hy => h x hx y (hsorted y hy)]
      refine ih _ hrest fun y hy => ?_
      rcases List.mem_cons.mp ((insertDescending_perm less x sorted).mem_iff.mp hy) with rfl | hy
      · exact hx
      · exact hsorted y hy
  rw [stableSort?, fold xs [] (fun _ hx => hx) (List.forall_mem_nil _)]
  rfl

lemma firstOfEach?_eq {key? : α → Option String} {key : α → String}
    (h : ∀ x ∈ xs, key? x = some (key x)) (seen : List String) :
    firstOfEach? key? seen xs = some (firstOfEach key seen xs) := by
  induction xs generalizing seen with
  | nil => rfl
  | cons x xs ih =>
    obtain ⟨hx, hxs⟩ := List.forall_mem_cons.mp h
    rw [firstOfEach?, hx, firstOfEach]
    show (if key x ∈ seen then firstOfEach? key? seen xs else _) = _
    split_ifs with hseen
    · exact ih hxs seen
    · rw [ih hxs]
      rfl

lemma allM_eq {test? : α → Option Bool} {test : α → Bool} (h : ∀ x ∈ xs, test? x = some (test x)) :
    xs.allM test? = some (xs.all test) := by
  induction xs with
  | nil => rfl
  | cons x xs ih =>
    obtain ⟨hx, hxs⟩ := List.forall_mem_cons.mp h
    rw [List.allM, hx, List.all_cons, ih hxs]
    cases test x <;> rfl

lemma filterM_eq {test? : α → Option Bool} {test : α → Bool} (h : ∀ x ∈ xs, test? x = some (test x)) :
    xs.filterM test? = some (xs.filter test) := by
  have walk (kept : List α) :
      xs.filterAuxM test? kept = some ((xs.filter test).reverse ++ kept) := by
    induction xs generalizing kept with
    | nil => rfl
    | cons x xs ih =>
      obtain ⟨hx, hxs⟩ := List.forall_mem_cons.mp h
      rw [List.filterAuxM, hx]
      cases htest : test x with
      | true => simpa [htest] using ih hxs (x :: kept)
      | false => simpa [htest] using ih hxs kept
  rw [List.filterM, walk, List.append_nil]
  exact congrArg some (List.reverse_reverse _)

end Lists

namespace View

variable {s : Schema} {rows : List Row} {t : Table} {v w : View} {calls : List Call}

/-- The rows of a view before they are ordered, if there is a primary key and every row has the cells that are
looked at. -/
def selected? (v : View) : Option (List Row) := do
  let key ← v.table.schema.columnIndex? v.table.schema.primaryKey
  let admitted ← v.table.rows.filterM fun row => v.steps.allM (Step.admits? row)
  if v.distinct then firstOfEach? (fun row => (row[key]?).map Value.text) [] admitted
  else return admitted

/-- The rows of a view, if looking at them does not fail. -/
def rows? (v : View) : Option (List Row) :=
  if v.empty then some []
  else do
    stableSort? (fun a b => (SortColumn.compareAll? v.ordering a b).map (· == .lt)) (← v.selected?)

/-- Every place that a view looks at lies in every row of its table. -/
structure InRange (v : View) : Prop where
  rows : ∀ row ∈ v.table.rows, row.length = v.table.schema.columns.length
  key : v.table.schema.columnIndex? v.table.schema.primaryKey = some v.table.keyIndex
  key_lt : v.table.keyIndex < v.table.schema.columns.length
  steps : ∀ st ∈ v.steps, ∀ i ∈ st.test.places, i < v.table.schema.columns.length
  ordering : ∀ c ∈ v.ordering, c.index < v.table.schema.columns.length

/-- The view of a whole table looks at the primary key only. -/
lemma InRange.ofTable (h : Table.ofRows s rows = .ok t) : (ofTable t).InRange := by
  obtain ⟨⟨i, hi⟩, hrows, rfl⟩ := Dataset.ofRows_ok_iff.mp h
  have hkey : Table.keyIndex ⟨s, rows⟩ = i := by
    rw [Table.keyIndex, hi]
    rfl
  exact ⟨hrows, hkey ▸ hi, hkey ▸ Schema.columnIndex?_lt hi, List.forall_mem_nil _, List.forall_mem_nil _⟩

/-- A step with the test that a condition means looks at columns of the table. -/
lemma InRange.addStep (h : v.InRange) {p : Predicate} (st : Step)
    (hst : RowTest.ofPredicate v.table.schema p = .ok st.test) : (v.addSteps [st]).InRange := by
  refine ⟨h.rows, h.key, h.key_lt, fun st' hst' => ?_, h.ordering⟩
  rcases List.mem_append.mp hst' with hst' | hst'
  · exact h.steps st' hst'
  · obtain rfl := List.mem_singleton.mp hst'
    exact RowTest.places_lt hst

/-- A call keeps the places in range. -/
lemma InRange.apply (h : v.InRange) {call : Call} (hw : call.apply v = .ok w) : w.InRange := by
  cases call with
  | filter p =>
    obtain ⟨test, htest, rfl⟩ := map_ok_iff.mp hw
    exact h.addStep (.keep test) htest
  | exclude p =>
    obtain ⟨test, htest, rfl⟩ := map_ok_iff.mp hw
    exact h.addStep (.drop test) htest
  | distinct =>
    cases hw
    exact ⟨h.rows, h.key, h.key_lt, h.steps, h.ordering⟩
  | nothing =>
    cases hw
    exact ⟨h.rows, h.key, h.key_lt, h.steps, h.ordering⟩
  | orderBy terms =>
    obtain ⟨cs, hcs, rfl⟩ := map_ok_iff.mp hw
    refine ⟨h.rows, h.key, h.key_lt, h.steps, fun c hc => ?_⟩
    obtain ⟨term, -, hterm⟩ := exists_of_mem_right (mapM_ok_iff.mp hcs) c hc
    rw [sortColumn] at hterm
    split at hterm
    · rename_i index hindex
      cases hterm
      exact Schema.columnIndex?_lt hindex
    · cases hterm

/-- So does a run of calls. -/
lemma InRange.applyAll (h : v.InRange) (hw : Call.applyAll calls v = .ok w) : w.InRange := by
  rw [Call.applyAll] at hw
  induction calls generalizing v with
  | nil =>
    cases hw
    exact h
  | cons call calls ih =>
    rw [List.foldlM_cons] at hw
    obtain ⟨u, hu, hw⟩ := bind_ok_iff.mp hw
    exact ih (h.apply hu) hw

namespace InRange

variable {row a b : Row}

lemma admits?_eq (h : v.InRange) {st : Step} (hst : st ∈ v.steps) (hrow : row ∈ v.table.rows) :
    st.admits? row = some (st.admits row) :=
  Step.admits?_eq fun i hi => (h.rows row hrow).symm ▸ h.steps st hst i hi

lemma compareAll?_eq (h : v.InRange) (ha : a ∈ v.table.rows) (hb : b ∈ v.table.rows) :
    SortColumn.compareAll? v.ordering a b = some (SortColumn.compareAll v.ordering a b) :=
  SortColumn.compareAll?_eq (fun c hc => (h.rows a ha).symm ▸ h.ordering c hc)
    fun c hc => (h.rows b hb).symm ▸ h.ordering c hc

lemma keyText_eq (h : v.InRange) (hrow : row ∈ v.table.rows) :
    (row[v.table.keyIndex]?).map Value.text = some (v.table.keyText row) := by
  have hlt : v.table.keyIndex < row.length := (h.rows row hrow).symm ▸ h.key_lt
  rw [Table.keyText, List.getElem?_eq_getElem hlt]
  rfl

lemma selected?_eq (h : v.InRange) (he : v.empty = false) : v.selected? = some v.selected := by
  have hadmitted : v.table.rows.filterM (fun row => v.steps.allM (Step.admits? row)) =
      some v.admitted := filterM_eq fun row hrow => allM_eq fun st hst => h.admits?_eq hst hrow
  rw [selected?, h.key, hadmitted, selected, he, if_neg Bool.false_ne_true]
  show (if v.distinct then firstOfEach? _ [] v.admitted else some v.admitted) = _
  split_ifs
  · exact firstOfEach?_eq (fun row hrow => h.keyText_eq (List.mem_filter.mp hrow).1) []
  · rfl

/-- Showing a view does not fail, and shows its rows. -/
lemma rows?_eq (h : v.InRange) : v.rows? = some v.rows := by
  rw [rows?, View.rows]
  cases he : v.empty with
  | true =>
    rw [selected, he]
    rfl
  | false =>
    rw [if_neg Bool.false_ne_true, h.selected?_eq he]
    refine stableSort?_eq fun a ha b hb => ?_
    rw [h.compareAll?_eq (mem_of_mem_selected ha) (mem_of_mem_selected hb)]
    rfl

end InRange

/-- Whatever a table is asked for, each row has a cell for each column, there is a primary key, and its place as
well as those of every test and of the order are places of columns. So no step, no comparison of rows and no
look at a primary key misses a cell, and showing the view does not fail; the rows that are shown have a cell
for each column to be written under. -/
theorem looks_in_range (ht : Table.ofRows s rows = .ok t) (hv : Call.applyAll calls (ofTable t) = .ok v) :
    v.table = ⟨s, rows⟩ ∧ v.InRange ∧
    (∀ row ∈ v.table.rows,
      (∀ st ∈ v.steps, st.admits? row = some (st.admits row)) ∧
      (row[v.table.keyIndex]?).map Value.text = some (v.table.keyText row) ∧
      ∀ other ∈ v.table.rows, SortColumn.compareAll? v.ordering row other =
        some (SortColumn.compareAll v.ordering row other)) ∧
    v.rows? = some v.rows ∧ ∀ row ∈ v.rows, row.length = s.columns.length := by
  have hrange : v.InRange := (InRange.ofTable ht).applyAll hv
  have htable : v.table = ⟨s, rows⟩ := (applyAll_table hv).trans (Dataset.ofRows_ok_iff.mp ht).2.2
  refine ⟨htable, hrange, fun row hrow => ⟨fun st hst => hrange.admits?_eq hst hrow, hrange.keyText_eq hrow,
    fun other hother => hrange.compareAll?_eq hrow hother⟩, hrange.rows?_eq, fun row hrow => ?_⟩
  rw [hrange.rows row (mem_of_mem_selected (mem_rows.mp hrow)), htable]

/-- A condition in which conditions are nested, an order by the key and the name, and each key once. -/
theorem spellings_looks_in_range :
    Table.ofRows Table.spellings.schema Table.spellings.rows = .ok Table.spellings ∧
    ∃ v, Call.applyAll
        [.orderBy [⟨"pk", true⟩, ⟨"name", false⟩],
          .filter (.or [.not (.and [.lookup ⟨"name", .isNull, .scalar "1"⟩]),
            .lookup ⟨"id", .exact, .scalar "7"⟩]), .distinct] (ofTable Table.spellings) = .ok v ∧
      v.InRange ∧ v.rows? = some v.rows ∧ v.rows = [[.int 1, .string "Rome"]] := by
  obtain ⟨v, hv, hrows⟩ : ∃ v, Call.applyAll
      [.orderBy [⟨"pk", true⟩, ⟨"name", false⟩],
        .filter (.or [.not (.and [.lookup ⟨"name", .isNull, .scalar "1"⟩]),
          .lookup ⟨"id", .exact, .scalar "7"⟩]), .distinct] (ofTable Table.spellings) = .ok v ∧
      v.rows = [[.int 1, .string "Rome"]] := ⟨_, rfl, by decide⟩
  have ht : Table.ofRows Table.spellings.schema Table.spellings.rows = .ok Table.spellings := rfl
  obtain ⟨-, hrange, -, hshown, -⟩ := looks_in_range ht hv
  exact ⟨ht, v, hv, hrange, hshown, hrows⟩

end View

end RowQuery
