import RowQuery.Proofs.Outcome
import RowQuery.Table.Test

/-!
What a condition tells of the rows of a table: for each row yes or no, or else the error that keeps it
from being made ready. Two conditions with one `truth` can take each other's place. The lemmas give
the truth of a condition from those of its parts, and `truth_all` and `truth_negate` say that the
flattening constructors change neither answers nor errors.
-/

namespace RowQuery.Predicate

open Outcome

/-- Induction over a condition, with a hypothesis for each child. -/
@[elab_as_elim, induction_eliminator]
theorem induct {motive : Predicate → Prop} (lookup : ∀ l, motive (.lookup l))
    (and : ∀ children, (∀ p ∈ children, motive p) → motive (.and children))
    (or : ∀ children, (∀ p ∈ children, motive p) → motive (.or children))
    (not : ∀ child, motive child → motive (.not child)) (p : Predicate) : motive p := by
  cases p with
  | lookup l => exact lookup l
  | and children => exact and children fun p _ => induct lookup and or not p
  | or children => exact or children fun p _ => induct lookup and or not p
  | not child => exact not child (induct lookup and or not child)

/-- What a condition tells of the rows of a table, or why it says nothing. -/
def truth (s : Schema) (p : Predicate) : Except StoreError (Row → Bool) :=
  (RowTest.ofPredicate s p).map fun test row => test.holds row

/-- What the conditions of a list say of the rows of a table. -/
def truths (s : Schema) (ps : List Predicate) : Except StoreError (List (Row → Bool)) :=
  ps.mapM (truth s)

lemma allHold_eq (row : Row) (tests : List RowTest) :
    RowTest.allHold row tests = tests.all (RowTest.holds row) := by
  induction tests with
  | nil => rfl
  | cons test tests ih => simp [RowTest.allHold, ih]

lemma someHolds_eq (row : Row) (tests : List RowTest) :
    RowTest.someHolds row tests = tests.any (RowTest.holds row) := by
  induction tests with
  | nil => rfl
  | cons test tests ih => simp [RowTest.someHolds, ih]

lemma ofPredicates_eq (s : Schema) (ps : List Predicate) :
    RowTest.ofPredicates s ps = ps.mapM (RowTest.ofPredicate s) := by
  induction ps with
  | nil => rfl
  | cons p ps ih => rw [RowTest.ofPredicates, ih, List.mapM_cons]

lemma truths_eq (s : Schema) (ps : List Predicate) :
    truths s ps = (RowTest.ofPredicates s ps).map fun tests =>
      tests.map fun test row => test.holds row := by
  rw [ofPredicates_eq]
  exact mapM_map_eq

/-- The rows for which every answer is yes. -/
def everySays (answers : List (Row → Bool)) : Row → Bool := fun row =>
  answers.all fun answer => answer row

/-- The rows for which some answer is yes. -/
def someSays (answers : List (Row → Bool)) : Row → Bool := fun row =>
  answers.any fun answer => answer row

/-- A conjunction says yes where all of its parts do. -/
lemma truth_and (s : Schema) (ps : List Predicate) :
    truth s (.and ps) = (truths s ps).map everySays := by
  rw [truth, RowTest.ofPredicate, truths_eq]
  cases RowTest.ofPredicates s ps with
  | error e => rfl
  | ok tests =>
    refine congrArg Except.ok (funext fun row => ?_)
    simp [everySays, RowTest.holds, allHold_eq, List.all_map, Function.comp_def]

/-- A disjunction says yes where some of its parts does. -/
lemma truth_or (s : Schema) (ps : List Predicate) :
    truth s (.or ps) = (truths s ps).map someSays := by
  rw [truth, RowTest.ofPredicate, truths_eq]
  cases RowTest.ofPredicates s ps with
  | error e => rfl
  | ok tests =>
    refine congrArg Except.ok (funext fun row => ?_)
    simp [someSays, RowTest.holds, someHolds_eq, List.any_map, Function.comp_def]

/-- A negation says yes where its child says no. -/
lemma truth_not (s : Schema) (p : Predicate) :
    truth s (.not p) = (truth s p).map fun answer row => !answer row := by
  rw [truth, truth, RowTest.ofPredicate]
  cases RowTest.ofPredicate s p with
  | error e => rfl
  | ok test => rfl

/-- Negation that collapses says what bare negation says. -/
lemma truth_negate (s : Schema) (p : Predicate) : truth s p.negate = truth s (.not p) := by
  cases p with
  | not p =>
    rw [negate, truth_not, truth_not]
    cases truth s p with
    | error e => rfl
    | ok answer => exact congrArg Except.ok (funext fun row => by simp)
  | lookup l => rfl
  | and ps => rfl
  | or ps => rfl

/-- A conjunction of one part says what the part says. -/
lemma truths_singleton (s : Schema) (p : Predicate) : (truths s [p]).map everySays = truth s p := by
  rw [truths, List.mapM_cons, List.mapM_nil]
  cases truth s p with
  | error e => rfl
  | ok answer => exact congrArg Except.ok (funext fun row => by simp [everySays])

/-- A condition says what the conjunction of its conjuncts says. -/
lemma truths_conjuncts (s : Schema) (p : Predicate) :
    (truths s p.conjuncts).map everySays = truth s p := by
  cases p with
  | and ps => exact (truth_and s ps).symm
  | lookup l => exact truths_singleton s (.lookup l)
  | or ps => exact truths_singleton s (.or ps)
  | not p => exact truths_singleton s (.not p)

/-- A disjunction of one part says what the part says. -/
lemma truths_singleton_someSays (s : Schema) (p : Predicate) :
    (truths s [p]).map someSays = truth s p := by
  rw [truths, List.mapM_cons, List.mapM_nil]
  cases truth s p with
  | error e => rfl
  | ok answer => exact congrArg Except.ok (funext fun row => by simp [someSays])

/-- A condition says what the disjunction of its disjuncts says. -/
lemma truths_disjuncts (s : Schema) (p : Predicate) :
    (truths s p.disjuncts).map someSays = truth s p := by
  cases p with
  | or ps => exact (truth_or s ps).symm
  | lookup l => exact truths_singleton_someSays s (.lookup l)
  | and ps => exact truths_singleton_someSays s (.and ps)
  | not p => exact truths_singleton_someSays s (.not p)

/-- A way to join the answers of a list that may be used on parts of the list first. -/
def Splits (join : List (Row → Bool) → Row → Bool) (both : Bool → Bool → Bool) : Prop :=
  ∀ xs ys, join (xs ++ ys) = fun row => both (join xs row) (join ys row)

lemma everySays_splits : Splits everySays (· && ·) := fun xs ys => by
  funext row
  simp [everySays]

lemma someSays_splits : Splits someSays (· || ·) := fun xs ys => by
  funext row
  simp [someSays]

/-- What a list of conditions says together is settled by what its parts say together. -/
lemma truths_append {join : List (Row → Bool) → Row → Bool} {both : Bool → Bool → Bool}
    (hj : Splits join both) (s : Schema) (ps qs : List Predicate) :
    (truths s (ps ++ qs)).map join = (do
      let first ← (truths s ps).map join
      let second ← (truths s qs).map join
      return fun row => both (first row) (second row)) := by
  rw [truths, List.mapM_append, ← truths, ← truths]
  cases truths s ps with
  | error e => rfl
  | ok xs =>
    cases truths s qs with
    | error e => rfl
    | ok ys => exact congrArg Except.ok (hj xs ys)

/-- Conditions may be replaced by lists of conditions that say the same together. -/
lemma truths_flatMap {join : List (Row → Bool) → Row → Bool} {both : Bool → Bool → Bool}
    (hj : Splits join both) {s : Schema} {parts : Predicate → List Predicate}
    (hp : ∀ p, (truths s (parts p)).map join = (truths s [p]).map join) (ps : List Predicate) :
    (truths s (ps.flatMap parts)).map join = (truths s ps).map join := by
  induction ps with
  | nil => rfl
  | cons p ps ih =>
    rw [List.flatMap_cons, truths_append hj, hp, ih, ← truths_append hj, List.singleton_append]

/-- Flattening a conjunction changes neither the answers nor the error. -/
lemma truth_all (s : Schema) (ps : List Predicate) : truth s (all ps) = truth s (.and ps) := by
  rw [all, truth_and, truth_and]
  exact truths_flatMap everySays_splits
    (fun p => (truths_conjuncts s p).trans (truths_singleton s p).symm) ps

/-- Flattening a disjunction changes neither the answers nor the error. -/
lemma truth_any (s : Schema) (ps : List Predicate) : truth s (any ps) = truth s (.or ps) := by
  rw [any, truth_or, truth_or]
  exact truths_flatMap someSays_splits
    (fun p => (truths_disjuncts s p).trans (truths_singleton_someSays s p).symm) ps

/-- The condition can be made ready for the rows of a table. -/
def Ready (s : Schema) (p : Predicate) : Prop := ∃ answer, truth s p = .ok answer

/-- The condition holds for a row of a table. -/
def Says (s : Schema) (p : Predicate) (row : Row) : Prop :=
  ∃ answer, truth s p = .ok answer ∧ answer row = true

variable {s : Schema} {ps : List Predicate}

lemma ready_all : Ready s (all ps) ↔ ∀ p ∈ ps, Ready s p := by
  refine Iff.trans ?_ exists_mapM_ok_iff
  simp only [Ready, truth_all, truth_and, map_ok_iff]
  exact ⟨fun ⟨_, answers, h, _⟩ => ⟨answers, h⟩, fun ⟨answers, h⟩ => ⟨_, answers, h, rfl⟩⟩

lemma ready_any : Ready s (any ps) ↔ ∀ p ∈ ps, Ready s p := by
  refine Iff.trans ?_ exists_mapM_ok_iff
  simp only [Ready, truth_any, truth_or, map_ok_iff]
  exact ⟨fun ⟨_, answers, h, _⟩ => ⟨answers, h⟩, fun ⟨answers, h⟩ => ⟨_, answers, h, rfl⟩⟩

/-- A conjunction holds for the rows that each of its parts holds for. -/
lemma says_all {row : Row} : Says s (all ps) row ↔ ∀ p ∈ ps, Says s p row := by
  rw [Says, truth_all, truth_and]
  simp only [map_ok_iff]
  constructor
  · rintro ⟨_, ⟨answers, h, rfl⟩, hrow⟩ p hp
    obtain ⟨answer, hmem, hp⟩ := exists_of_mem_left (mapM_ok_iff.mp h) p hp
    exact ⟨answer, hp, List.all_eq_true.mp hrow answer hmem⟩
  · intro h
    obtain ⟨answers, ht⟩ : ∃ answers, truths s ps = .ok answers :=
      exists_mapM_ok_iff.mpr fun p hp => (h p hp).imp fun _ ha => ha.1
    refine ⟨_, ⟨answers, ht, rfl⟩, List.all_eq_true.mpr fun answer hmem => ?_⟩
    obtain ⟨p, hp, ha⟩ := exists_of_mem_right (mapM_ok_iff.mp ht) answer hmem
    obtain ⟨answer', ha', hrow⟩ := h p hp
    rw [ha] at ha'
    cases ha'
    exact hrow

/-- A disjunction of conditions that are ready holds for the rows that some of them holds for. -/
lemma says_any {row : Row} (hr : ∀ p ∈ ps, Ready s p) :
    Says s (any ps) row ↔ ∃ p ∈ ps, Says s p row := by
  obtain ⟨answers, h⟩ : ∃ answers, truths s ps = .ok answers := exists_mapM_ok_iff.mpr hr
  have ht : truth s (any ps) = .ok (someSays answers) := by
    rw [truth_any, truth_or, h]; rfl
  constructor
  -- A condition has one truth, so answers that are named twice are the same.
  · rintro ⟨_, ha, hrow⟩
    rw [ht] at ha
    cases ha
    obtain ⟨answer, hmem, hrow⟩ := List.any_eq_true.mp hrow
    obtain ⟨p, hp, ha⟩ := exists_of_mem_right (mapM_ok_iff.mp h) answer hmem
    exact ⟨p, hp, answer, ha, hrow⟩
  · rintro ⟨p, hp, answer, ha, hrow⟩
    obtain ⟨answer', hmem, ha'⟩ := exists_of_mem_left (mapM_ok_iff.mp h) p hp
    rw [ha] at ha'
    cases ha'
    exact ⟨_, ht, List.any_eq_true.mpr ⟨answer, hmem, hrow⟩⟩

/-- A test that is made ready passes the rows that its condition holds for. -/
lemma holds_iff {p : Predicate} {test : RowTest} (h : RowTest.ofPredicate s p = .ok test) {row : Row} :
    test.holds row = true ↔ Says s p row := by
  have said : truth s p = .ok fun row => test.holds row := by
    rw [truth, h]; rfl
  constructor
  · exact fun hrow => ⟨_, said, hrow⟩
  · rintro ⟨answer, ha, hrow⟩
    rw [said] at ha
    cases ha
    exact hrow

/-- A condition that is ready narrows a view to the rows that it holds for. -/
lemma Ready.test {p : Predicate} (h : Ready s p) :
    ∃ test, RowTest.ofPredicate s p = .ok test ∧ ∀ row, test.holds row = true ↔ Says s p row := by
  obtain ⟨_, ht⟩ := h
  obtain ⟨test, ht, -⟩ := map_ok_iff.mp ht
  exact ⟨test, ht, fun row => holds_iff ht⟩

end RowQuery.Predicate
