import Mathlib.Data.List.Infix
import RowQuery.Proofs.Schema.Columns
import RowQuery.Proofs.Value.Typed

/-!
Comparisons made ready. `CellTest.Made` says which test a comparison and an operand become for the
columns of a kind; `ofLookup_ok_iff` is its inversion. On a cell that the column admits the test then
answers in the native order of values, one lemma for each comparison.
-/

namespace RowQuery

open Outcome

/-- A text occurs in another one iff it is a block of it. -/
lemma Text.occursIn_iff {needle cs : List Char} : occursIn needle cs = true ↔ needle <:+: cs := by
  induction cs with
  | nil => simp [occursIn]
  | cons c cs ih => rw [occursIn, Bool.or_eq_true, ih, List.isPrefixOf_iff_prefix, List.infix_cons_iff]

namespace CellTest

/-- The test that a comparison becomes for the columns of a kind. -/
inductive Made (kind : ColumnKind) : Comparison → Operand → CellTest → Prop where
  | exact {x : String} {v : Value} :
    kind.read? x = some v → Made kind .exact (.scalar x) (.exact v)
  | less {x : String} {v : Value} : kind.read? x = some v → Made kind .less (.scalar x) (.less v)
  | atMost {x : String} {v : Value} :
    kind.read? x = some v → Made kind .atMost (.scalar x) (.atMost v)
  | greater {x : String} {v : Value} :
    kind.read? x = some v → Made kind .greater (.scalar x) (.greater v)
  | atLeast {x : String} {v : Value} :
    kind.read? x = some v → Made kind .atLeast (.scalar x) (.atLeast v)
  | contains {x : String} : Made kind .contains (.scalar x) (.contains (Text.lower x.toList))
  | oneOf {xs : List String} {vs : List Value} :
    List.Forall₂ (fun x v => kind.read? x = some v) xs vs → Made kind .oneOf (.list xs) (.oneOf vs)
  | range {x y : String} {low high : Value} : kind.read? x = some low → kind.read? y = some high →
    Made kind .range (.list [x, y]) (.range low high)
  | isNull {x : String} {n : Int} : Numeric.readInt64? (Text.trim x.toList) = some n →
    Made kind .isNull (.scalar x) (.isNull (n ≠ 0))

variable {kind : ColumnKind} {l : Lookup} {test : CellTest}

lemma scalar_ok_iff {x : String} : scalar l = .ok x ↔ l.operand = .scalar x := by
  rw [scalar]
  split <;> simp [*]

lemma list_ok_iff {xs : List String} : list l = .ok xs ↔ l.operand = .list xs := by
  rw [list]
  split <;> simp [*]

lemma coerceFlag_ok_iff {raw path : String} {b : Bool} : coerceFlag raw path = .ok b ↔
    ∃ n, Numeric.readInt64? (Text.trim raw.toList) = some n ∧ decide (n ≠ 0) = b := by
  rw [coerceFlag]
  split <;> simp [*]

/-- A comparison with one value is made from a scalar that is read as a value of the column. -/
lemma typedScalar_ok_iff {make : Value → CellTest} :
    (do return make (← kind.coerce (← scalar l) l.path)) = (.ok test : Except StoreError CellTest) ↔
      ∃ x v, l.operand = .scalar x ∧ kind.read? x = some v ∧ make v = test := by
  constructor
  · intro h
    obtain ⟨x, hx, h⟩ := bind_ok_iff.mp h
    obtain ⟨v, hv, h⟩ := bind_ok_iff.mp h
    exact ⟨x, v, scalar_ok_iff.mp hx, ColumnKind.coerce_ok_iff.mp hv, Except.ok.inj h⟩
  · rintro ⟨x, v, hx, hv, rfl⟩
    refine bind_ok_iff.mpr ⟨x, scalar_ok_iff.mpr hx, bind_ok_iff.mpr ⟨v, ?_, rfl⟩⟩
    exact ColumnKind.coerce_ok_iff.mpr hv

lemma typedScalar_made {make : Value → CellTest} {comparison : Comparison}
    (hm : ∀ {x v}, kind.read? x = some v → Made kind comparison (.scalar x) (make v))
    (h : (do return make (← kind.coerce (← scalar l) l.path)) =
      (.ok test : Except StoreError CellTest)) :
    Made kind comparison l.operand test := by
  obtain ⟨x, v, ho, hv, rfl⟩ := typedScalar_ok_iff.mp h
  rw [ho]
  exact hm hv

/-- What is made ready has been read from the operand. -/
lemma made_of_ofLookup (h : ofLookup kind l = .ok test) : Made kind l.comparison l.operand test := by
  rw [ofLookup] at h
  cases hc : l.comparison with
  | exact => rw [hc] at h; exact typedScalar_made .exact h
  | less => rw [hc] at h; exact typedScalar_made .less h
  | atMost => rw [hc] at h; exact typedScalar_made .atMost h
  | greater => rw [hc] at h; exact typedScalar_made .greater h
  | atLeast => rw [hc] at h; exact typedScalar_made .atLeast h
  | contains =>
    rw [hc] at h
    obtain ⟨x, hx, h⟩ := bind_ok_iff.mp h
    cases h
    rw [scalar_ok_iff.mp hx]
    exact .contains
  | oneOf =>
    rw [hc] at h
    obtain ⟨xs, hx, h⟩ := bind_ok_iff.mp h
    obtain ⟨vs, hv, h⟩ := bind_ok_iff.mp h
    cases h
    rw [list_ok_iff.mp hx]
    exact .oneOf ((mapM_ok_iff.mp hv).imp fun _ _ => ColumnKind.coerce_ok_iff.mp)
  | range =>
    rw [hc] at h
    obtain ⟨xs, hx, h⟩ := bind_ok_iff.mp h
    split at h
    · obtain ⟨low, hl, h⟩ := bind_ok_iff.mp h
      obtain ⟨high, hh, h⟩ := bind_ok_iff.mp h
      cases h
      rw [list_ok_iff.mp hx]
      exact .range (ColumnKind.coerce_ok_iff.mp hl) (ColumnKind.coerce_ok_iff.mp hh)
    · cases h
  | isNull =>
    rw [hc] at h
    obtain ⟨x, hx, h⟩ := bind_ok_iff.mp h
    obtain ⟨b, hb, h⟩ := bind_ok_iff.mp h
    cases h
    obtain ⟨n, hn, rfl⟩ := coerceFlag_ok_iff.mp hb
    rw [scalar_ok_iff.mp hx]
    exact .isNull hn

/-- What can be read from the operand is made ready. -/
lemma ofLookup_of_made {comparison : Comparison} {operand : Operand}
    (h : Made kind comparison operand test) (path : String) :
    ofLookup kind ⟨path, comparison, operand⟩ = .ok test := by
  cases h with
  | exact hv | less hv | atMost hv | greater hv | atLeast hv =>
    exact typedScalar_ok_iff.mpr ⟨_, _, rfl, hv, rfl⟩
  | contains => rfl
  | oneOf hvs =>
    refine bind_ok_iff.mpr ⟨_, rfl, bind_ok_iff.mpr ⟨_, ?_, rfl⟩⟩
    exact mapM_ok_iff.mpr (hvs.imp fun _ _ => ColumnKind.coerce_ok_iff.mpr)
  | range hl hh =>
    refine bind_ok_iff.mpr ⟨_, rfl, bind_ok_iff.mpr ⟨_, ColumnKind.coerce_ok_iff.mpr hl, ?_⟩⟩
    exact bind_ok_iff.mpr ⟨_, ColumnKind.coerce_ok_iff.mpr hh, rfl⟩
  | isNull hn =>
    refine bind_ok_iff.mpr ⟨_, rfl, bind_ok_iff.mpr ⟨_, ?_, rfl⟩⟩
    exact coerceFlag_ok_iff.mpr ⟨_, hn, rfl⟩

/-- A comparison is made ready iff its operand can be read. -/
lemma ofLookup_ok_iff {comparison : Comparison} {operand : Operand} {path : String} :
    ofLookup kind ⟨path, comparison, operand⟩ = .ok test ↔ Made kind comparison operand test :=
  ⟨made_of_ofLookup, fun h => ofLookup_of_made h path⟩

section Answers

variable {cell v : Value}

/-- Values of one type compare in their native order. -/
lemma compares_eq {e : Expected} (hc : cell.Is e) (hv : v.Is e) :
    cell.equal v = cell.same v ∧ compares Ordering.isLT cell v = cell.below v ∧
      compares Ordering.isLE cell v = (cell.below v || cell.same v) ∧
      compares Ordering.isGT cell v = v.below cell ∧
      compares Ordering.isGE cell v = (v.below cell || cell.same v) := by
  obtain ⟨β, _, place, h⟩ := Value.Is.linear e
  obtain ⟨hcompare, hequal, hsame, hbelow⟩ := h cell v hc hv
  obtain ⟨-, -, -, habove⟩ := h v cell hv hc
  have heq : cell.equal v = cell.same v := Bool.eq_iff_iff.mpr (hequal.trans hsame.symm)
  refine ⟨heq, ?_⟩
  simp only [compares, hcompare, Option.any_some]
  -- Of below, equal and above exactly one is the case.
  cases hplace : compare (place cell) (place v) with
  | lt =>
    have hlt := compare_lt_iff_lt.mp hplace
    have hb := hbelow.mpr hlt
    have hs : cell.same v = false := Bool.eq_false_iff.mpr fun h => hlt.ne (hsame.mp h)
    have ha : v.below cell = false := Bool.eq_false_iff.mpr fun h => hlt.not_gt (habove.mp h)
    simp [hb, hs, ha]
  | eq =>
    have heq := compare_eq_iff_eq.mp hplace
    have hs := hsame.mpr heq
    have hb : cell.below v = false := Bool.eq_false_iff.mpr fun h => (hbelow.mp h).ne heq
    have ha : v.below cell = false := Bool.eq_false_iff.mpr fun h => (habove.mp h).ne heq.symm
    simp [hb, hs, ha]
  | gt =>
    have hgt := compare_gt_iff_gt.mp hplace
    have ha := habove.mpr hgt
    have hs : cell.same v = false := Bool.eq_false_iff.mpr fun h => hgt.ne' (hsame.mp h)
    have hb : cell.below v = false := Bool.eq_false_iff.mpr fun h => hgt.not_gt (hbelow.mp h)
    simp [hb, hs, ha]

lemma holds_of_is {e : Expected} (test : CellTest) (hc : cell.Is e) :
    test.holds cell = test.holdsFor cell := by
  unfold holds
  rw [hc.isNull, if_neg Bool.false_ne_true]

variable (hc : kind.Admits cell) (hv : v.Is kind.expected)

include hc hv

lemma holds_exact : (exact v).holds cell = cell.same v := by
  rcases hc with rfl | hc
  · rfl
  · rw [holds_of_is _ hc, holdsFor, (compares_eq hc hv).1]

lemma holds_less : (less v).holds cell = cell.below v := by
  rcases hc with rfl | hc
  · rfl
  · rw [holds_of_is _ hc, holdsFor, (compares_eq hc hv).2.1]

lemma holds_atMost : (atMost v).holds cell = (cell.below v || cell.same v) := by
  rcases hc with rfl | hc
  · rfl
  · rw [holds_of_is _ hc, holdsFor, (compares_eq hc hv).2.2.1]

lemma holds_greater : (greater v).holds cell = v.below cell := by
  rcases hc with rfl | hc
  · rw [Value.below_null]
    rfl
  · rw [holds_of_is _ hc, holdsFor, (compares_eq hc hv).2.2.2.1]

lemma holds_atLeast : (atLeast v).holds cell = (v.below cell || cell.same v) := by
  rcases hc with rfl | hc
  · rw [Value.below_null]
    rfl
  · rw [holds_of_is _ hc, holdsFor, (compares_eq hc hv).2.2.2.2]

end Answers

/-- A cell is equal to one of the values read iff it is equal to one of them. -/
lemma holds_oneOf {cell : Value} (hc : kind.Admits cell) {xs : List String} {vs : List Value}
    (h : List.Forall₂ (fun x v => kind.read? x = some v) xs vs) :
    (oneOf vs).holds cell = xs.any fun x => (kind.read? x).any fun v => cell.same v := by
  have hany : (oneOf vs).holds cell = vs.any fun v => (exact v).holds cell := by
    rcases hc with rfl | hc
    · exact (List.any_eq_false.mpr fun _ _ => Bool.false_ne_true).symm
    · simp only [holds_of_is _ hc, holdsFor]
  rw [hany]
  clear hany
  induction h with
  | nil => rfl
  | cons hx _ ih =>
    rw [List.any_cons, List.any_cons, hx, Option.any_some, ih,
      holds_exact hc (ColumnKind.read?_is hx)]

/-- A cell is in a range iff it is neither below the lower bound nor above the upper one. -/
lemma holds_range {cell low high : Value} (hc : kind.Admits cell) (hl : low.Is kind.expected)
    (hh : high.Is kind.expected) : (range low high).holds cell =
      ((low.below cell || cell.same low) && (cell.below high || cell.same high)) := by
  rw [← holds_atLeast hc hl, ← holds_atMost hc hh]
  rcases hc with rfl | hc
  · rfl
  · rw [holds_of_is _ hc, holds_of_is _ hc, holds_of_is _ hc]
    rfl

end CellTest

end RowQuery
