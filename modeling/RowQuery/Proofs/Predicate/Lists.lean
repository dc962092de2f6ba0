import RowQuery.Proofs.Predicate.Truth
import RowQuery.Proofs.Schema.Columns

/-!
Comparisons with lists of values. A range says what its two bounds say together, and a list of
alternatives what the single values say of which one has to be met (`truth_range`, `truth_oneOf`),
errors included: the values are read in their order, and the first that cannot be read counts. Whatever
it is that cannot be read, the same is to blame (`exists_blame`).
-/

namespace RowQuery

open Outcome

namespace CellTest

variable {kind : ColumnKind} {path : String}

/-- A comparison with one value is made of the value that is read. -/
lemma typedScalar_eq (l : Lookup) {x : String} (hx : l.operand = .scalar x)
    (make : Value → CellTest) :
    (do return make (← kind.coerce (← scalar l) l.path)) = (kind.coerce x l.path).map make := by
  rw [scalar, hx]
  show (kind.coerce x l.path >>= fun v => .ok (make v)) = _
  cases kind.coerce x l.path <;> rfl

lemma ofLookup_exact (x : String) :
    ofLookup kind ⟨path, .exact, .scalar x⟩ = (kind.coerce x path).map exact :=
  typedScalar_eq ⟨path, .exact, .scalar x⟩ rfl exact

lemma ofLookup_oneOf (xs : List String) :
    ofLookup kind ⟨path, .oneOf, .list xs⟩ = (xs.mapM fun x => kind.coerce x path).map oneOf := by
  show ((xs.mapM fun x => kind.coerce x path) >>= fun vs => .ok (oneOf vs)) = _
  cases xs.mapM fun x => kind.coerce x path <;> rfl

/-- A cell equals one of the values iff it equals some of them alone. -/
lemma holds_oneOf_eq (vs : List Value) (cell : Value) :
    (oneOf vs).holds cell = vs.any fun v => (exact v).holds cell := by
  unfold holds
  cases cell.isNull with
  | true => simp
  | false => simp [holdsFor]

/-- A cell is in a range iff it is on the right side of either bound. -/
lemma holds_range_eq (low high cell : Value) :
    (range low high).holds cell = ((atLeast low).holds cell && (atMost high).holds cell) := by
  unfold holds
  cases cell.isNull with
  | true => rfl
  | false => rfl

end CellTest

namespace Predicate

/-- A path names no column, or each comparison with it is one with the cells at the place of a
column. -/
lemma truth_lookup_cases (s : Schema) (path : String) :
    (∀ comparison operand, truth s (.lookup ⟨path, comparison, operand⟩) =
      .error (.unknownColumn path)) ∨
    ∃ (i : Nat) (kind : ColumnKind), ∀ comparison operand,
      truth s (.lookup ⟨path, comparison, operand⟩) =
        (CellTest.ofLookup kind ⟨path, comparison, operand⟩).map fun test row =>
          (row[i]?).any test.holds := by
  by_cases hpath : path ∈ s.columns.map Column.name
  · obtain ⟨i, kind, h⟩ := RowTest.exists_ofLookup_of_mem hpath
    refine .inr ⟨i, kind, fun comparison operand => ?_⟩
    rw [truth, RowTest.ofPredicate, h]
    cases CellTest.ofLookup kind ⟨path, comparison, operand⟩ <;> rfl
  · refine .inl fun comparison operand => ?_
    rw [truth, RowTest.ofPredicate, RowTest.ofLookup_of_not_mem hpath]
    rfl

/-- A range says what its two bounds say together. -/
lemma truth_range (s : Schema) (path low high : String) :
    truth s (.lookup ⟨path, .range, .list [low, high]⟩) =
      (truths s [.lookup ⟨path, .atLeast, .scalar low⟩, .lookup ⟨path, .atMost, .scalar high⟩]).map
        everySays := by
  rw [truths, List.mapM_cons, List.mapM_cons, List.mapM_nil]
  obtain h | ⟨i, kind, h⟩ := truth_lookup_cases s path
  · rw [h, h]
    rfl
  · have hlow : CellTest.ofLookup kind ⟨path, .atLeast, .scalar low⟩ = (kind.coerce low path).map _ :=
      CellTest.typedScalar_eq _ rfl CellTest.atLeast
    have hhigh : CellTest.ofLookup kind ⟨path, .atMost, .scalar high⟩ =
        (kind.coerce high path).map _ := CellTest.typedScalar_eq _ rfl CellTest.atMost
    have hrange : CellTest.ofLookup kind ⟨path, .range, .list [low, high]⟩ = (do
        return CellTest.range (← kind.coerce low path) (← kind.coerce high path)) := rfl
    rw [h, h, h, hlow, hhigh, hrange]
    cases kind.coerce low path with
    | error e => rfl
    | ok l =>
      cases kind.coerce high path with
      | error e => rfl
      | ok u =>
        refine congrArg Except.ok (funext fun row => ?_)
        cases hcell : row[i]? with
        | none => simp [everySays, hcell]
        | some cell => simp [everySays, hcell, CellTest.holds_range_eq]

/-- A list of alternatives says what the single values say of which one has to be met. -/
lemma truth_oneOf (s : Schema) (path : String) {values : List String} (hne : values ≠ []) :
    truth s (.lookup ⟨path, .oneOf, .list values⟩) =
      (truths s (values.map fun x => .lookup ⟨path, .exact, .scalar x⟩)).map someSays := by
  rw [truths, List.mapM_map]
  show _ = (values.mapM fun x => truth s (.lookup ⟨path, .exact, .scalar x⟩)).map someSays
  obtain h | ⟨i, kind, h⟩ := truth_lookup_cases s path
  -- Without any value the unknown column would be missed.
  · obtain ⟨x, xs, rfl⟩ := List.exists_cons_of_ne_nil hne
    rw [List.mapM_cons, h, h]
    rfl
  · simp only [h, CellTest.ofLookup_exact, CellTest.ofLookup_oneOf, mapM_map_eq]
    cases values.mapM fun x => kind.coerce x path with
    | error e => rfl
    | ok vs =>
      refine congrArg Except.ok (funext fun row => ?_)
      cases hcell : row[i]? with
      | none => simp [someSays, hcell]
      | some cell => simp [someSays, hcell, CellTest.holds_oneOf_eq, List.any_map, Function.comp_def]

/-- What does not hold for some of the parts is what each negated part says. -/
lemma truths_not (s : Schema) (ps : List Predicate) :
    (truths s (ps.map .not)).map everySays =
      ((truths s ps).map someSays).map fun answer row => !answer row := by
  rw [truths, List.mapM_map]
  show (ps.mapM fun p => truth s (.not p)).map everySays = _
  simp only [truth_not, mapM_map_eq]
  show ((truths s ps).map _).map everySays = _
  cases truths s ps with
  | error e => rfl
  | ok answers =>
    refine congrArg Except.ok (funext fun row => ?_)
    simp [everySays, someSays, List.all_map, Function.comp_def, List.not_any_eq_all_not]

/-- Whatever is wrong with comparisons of one path, the same is to blame for it. -/
lemma exists_blame (s : Schema) (path field : String) :
    ∃ blame, ∀ comparison operand e, truth s (.lookup ⟨path, comparison, operand⟩) = .error e →
      FilterError.ofStore field e = blame := by
  obtain h | ⟨i, kind, h⟩ := truth_lookup_cases s path
  · refine ⟨.store (.unknownColumn path), fun comparison operand e he => ?_⟩
    rw [h] at he
    cases he
    rfl
  · refine ⟨.typeMismatch field, fun comparison operand e he => ?_⟩
    rw [h, map_error_iff] at he
    rw [FilterError.ofStore, if_pos (CellTest.ofLookup_blames he)]

end Predicate

end RowQuery
