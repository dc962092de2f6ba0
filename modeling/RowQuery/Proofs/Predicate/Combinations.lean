import RowQuery.Proofs.Predicate.Truth

/-!
Conditions that are put together step by step. A `Combination` says how, and `Combination.eval` carries
it out with some `Connectives`: the constructors that flatten, the bare ones, or the truth values. The
first two give conditions with the same comparisons in the same order, and where these can be made ready
for a table, the answers are the truth values: `flat_agrees_with_bare`. Where they cannot, the first
comparison that fails counts (`ofPredicate_error_iff`), so both fail alike.
-/

namespace RowQuery

open Outcome

/-- What "all of", "some of", "and", "or" and "not" mean. -/
structure Connectives (β : Type) where
  all : List β → β
  any : List β → β
  both : β → β → β
  either : β → β → β
  negate : β → β

/-- The connectives of truth values. -/
def Connectives.truthValues : Connectives Bool where
  all := List.and
  any := List.or
  both := and
  either := or
  negate := not

/-- The connectives of conditions that keep them flat. -/
def Connectives.flat : Connectives Predicate where
  all := Predicate.all
  any := Predicate.any
  both := (· &&& ·)
  either := (· ||| ·)
  negate := (~~~ ·)

/-- The connectives of conditions that leave their operands as they are. -/
def Connectives.bare : Connectives Predicate where
  all := .and
  any := .or
  both p q := .and [p, q]
  either p q := .or [p, q]
  negate := .not

/-- Something that is put together from parts. -/
inductive Combination (α : Type) where
  | part (a : α)
  | all (cs : List (Combination α))
  | any (cs : List (Combination α))
  | both (c d : Combination α)
  | either (c d : Combination α)
  | negation (c : Combination α)

namespace Combination

variable {α β : Type}

mutual

/-- What is put together with the given connectives, each part meaning what `f` says. -/
def eval (k : Connectives β) (f : α → β) : Combination α → β
  | part a => f a
  | all cs => k.all (evals k f cs)
  | any cs => k.any (evals k f cs)
  | both c d => k.both (eval k f c) (eval k f d)
  | either c d => k.either (eval k f c) (eval k f d)
  | negation c => k.negate (eval k f c)

/-- The operands of a combination, each of them put together. -/
def evals (k : Connectives β) (f : α → β) : List (Combination α) → List β
  | [] => []
  | c :: cs => eval k f c :: evals k f cs

end

/-- Induction over a combination, with a hypothesis for each operand. -/
@[elab_as_elim, induction_eliminator]
theorem induct {motive : Combination α → Prop} (part : ∀ a, motive (.part a))
    (all : ∀ cs, (∀ c ∈ cs, motive c) → motive (.all cs))
    (any : ∀ cs, (∀ c ∈ cs, motive c) → motive (.any cs))
    (both : ∀ c d, motive c → motive d → motive (.both c d))
    (either : ∀ c d, motive c → motive d → motive (.either c d))
    (negation : ∀ c, motive c → motive (.negation c)) (c : Combination α) : motive c :=
  match c with
  | .part a => part a
  | .all cs => all cs fun c _ => induct part all any both either negation c
  | .any cs => any cs fun c _ => induct part all any both either negation c
  | .both c d =>
    both c d (induct part all any both either negation c) (induct part all any both either negation d)
  | .either c d =>
    either c d (induct part all any both either negation c)
      (induct part all any both either negation d)
  | .negation c => negation c (induct part all any both either negation c)

lemma evals_eq (k : Connectives β) (f : α → β) (cs : List (Combination α)) :
    evals k f cs = cs.map (eval k f) := by
  induction cs with
  | nil => rfl
  | cons c cs ih => rw [evals, ih, List.map_cons]

lemma eval_all (k : Connectives β) (f : α → β) (cs : List (Combination α)) :
    (all cs).eval k f = k.all (cs.map (eval k f)) := by
  rw [eval, evals_eq]

lemma eval_any (k : Connectives β) (f : α → β) (cs : List (Combination α)) :
    (any cs).eval k f = k.any (cs.map (eval k f)) := by
  rw [eval, evals_eq]

/-- The parts from left to right. -/
def parts : Combination α → List α :=
  eval ⟨List.flatten, List.flatten, (· ++ ·), (· ++ ·), id⟩ fun a => [a]

end Combination

namespace Predicate

lemma lookupsOf_eq (ps : List Predicate) : lookupsOf ps = ps.flatMap lookups := by
  induction ps with
  | nil => rfl
  | cons p ps ih => rw [lookupsOf, ih, List.flatMap_cons]

lemma lookups_and (ps : List Predicate) : (and ps).lookups = ps.flatMap lookups := by
  rw [lookups, lookupsOf_eq]

lemma lookups_or (ps : List Predicate) : (or ps).lookups = ps.flatMap lookups := by
  rw [lookups, lookupsOf_eq]

lemma lookups_conjuncts (p : Predicate) : p.conjuncts.flatMap lookups = p.lookups := by
  cases p with
  | and ps => exact (lookups_and ps).symm
  | lookup l | or ps | not p => exact List.append_nil _

lemma lookups_disjuncts (p : Predicate) : p.disjuncts.flatMap lookups = p.lookups := by
  cases p with
  | or ps => exact (lookups_or ps).symm
  | lookup l | and ps | not p => exact List.append_nil _

lemma lookups_all (ps : List Predicate) : (all ps).lookups = (and ps).lookups := by
  rw [all, lookups_and, lookups_and, List.flatMap_assoc]
  simp only [lookups_conjuncts]

lemma lookups_any (ps : List Predicate) : (any ps).lookups = (or ps).lookups := by
  rw [any, lookups_or, lookups_or, List.flatMap_assoc]
  simp only [lookups_disjuncts]

lemma lookups_negate (p : Predicate) : p.negate.lookups = (not p).lookups := by
  cases p <;> rfl

variable {s : Schema}

mutual

/-- Making a condition ready is making its comparisons ready one after the other. -/
lemma ofPredicate_agree : (p : Predicate) →
    Agree (fun _ _ => True) (RowTest.ofPredicate s p) (p.lookups.mapM (RowTest.ofLookup s))
  | lookup l => by
    rw [RowTest.ofPredicate, lookups, List.mapM_cons, List.mapM_nil]
    cases RowTest.ofLookup s l with
    | error e => exact .error e
    | ok test => exact .ok trivial
  | and ps => (ofPredicates_agree ps).map_left fun _ _ h => h
  | or ps => (ofPredicates_agree ps).map_left fun _ _ h => h
  | not p => (ofPredicate_agree p).map_left fun _ _ h => h

lemma ofPredicates_agree : (ps : List Predicate) →
    Agree (fun _ _ => True) (RowTest.ofPredicates s ps) ((lookupsOf ps).mapM (RowTest.ofLookup s))
  | [] => .ok trivial
  | p :: ps => by
    rw [RowTest.ofPredicates, lookupsOf, List.mapM_append]
    refine (ofPredicate_agree p).bind fun _ _ _ => ?_
    exact (ofPredicates_agree ps).bind fun _ _ _ => .ok trivial

end

/-- A condition fails with the error of its first comparison that fails by itself. -/
lemma ofPredicate_error_iff {p : Predicate} {e : StoreError} :
    RowTest.ofPredicate s p = .error e ↔ ∃ before l after, p.lookups = before ++ l :: after ∧
      (∀ b ∈ before, ∃ test, RowTest.ofPredicate s (.lookup b) = .ok test) ∧
      RowTest.ofPredicate s (.lookup l) = .error e := by
  simp only [RowTest.ofPredicate]
  exact (ofPredicate_agree p).error_iff.trans mapM_error_iff

/-- Lists of conditions that say the same one by one say the same. -/
lemma truths_congr {ps qs : List Predicate} (h : ps.map (truth s) = qs.map (truth s)) :
    truths s ps = truths s qs := by
  have hmap (ps : List Predicate) : truths s ps = (ps.map (truth s)).mapM id := by
    rw [List.mapM_map]
    rfl
  rw [hmap, hmap, h]

/-- What the flat constructors and the bare ones make alike of conditions that are alike is alike for
whole combinations. -/
lemma eval_flat_eq {γ : Type} {g : Predicate → γ}
    (hall : ∀ {ps qs}, ps.map g = qs.map g → g (all ps) = g (and qs))
    (hany : ∀ {ps qs}, ps.map g = qs.map g → g (any ps) = g (or qs))
    (hnegate : ∀ {p q}, g p = g q → g p.negate = g (not q)) (c : Combination Predicate) :
    g (c.eval .flat id) = g (c.eval .bare id) := by
  have operands {cs : List (Combination Predicate)}
      (ih : ∀ c ∈ cs, g (c.eval .flat id) = g (c.eval .bare id)) :
      (cs.map (Combination.eval .flat id)).map g = (cs.map (Combination.eval .bare id)).map g := by
    rw [List.map_map, List.map_map]
    exact List.map_congr_left ih
  induction c with
  | part p => rfl
  | all cs ih =>
    rw [Combination.eval_all, Combination.eval_all]
    exact hall (operands ih)
  | any cs ih =>
    rw [Combination.eval_any, Combination.eval_any]
    exact hany (operands ih)
  | both c d ihc ihd => exact hall (by rw [List.map_cons, List.map_singleton, ihc, ihd]; rfl)
  | either c d ihc ihd => exact hany (by rw [List.map_cons, List.map_singleton, ihc, ihd]; rfl)
  | negation c ih => exact hnegate ih

/-- Flattening keeps the comparisons and their order. -/
lemma lookups_eval_flat (c : Combination Predicate) :
    (c.eval .flat id).lookups = (c.eval .bare id).lookups := by
  refine eval_flat_eq (fun h => ?_) (fun h => ?_) (fun h => ?_) c
  · rw [lookups_all, lookups_and, lookups_and, List.flatMap_def, h, List.flatMap_def]
  · rw [lookups_any, lookups_or, lookups_or, List.flatMap_def, h, List.flatMap_def]
  · rw [lookups_negate, lookups, lookups, h]

/-- Flattening changes neither the answers nor the error. -/
lemma truth_eval_flat (s : Schema) (c : Combination Predicate) :
    truth s (c.eval .flat id) = truth s (c.eval .bare id) := by
  refine eval_flat_eq (fun h => ?_) (fun h => ?_) (fun h => ?_) c
  · rw [truth_all, truth_and, truth_and, truths_congr h]
  · rw [truth_any, truth_or, truth_or, truths_congr h]
  · rw [truth_negate, truth_not, truth_not, h]

end Predicate

namespace Combination

variable {s : Schema} {tests : Predicate → RowTest}

/-- A bare combination that is made ready is made of parts with the given tests, and answers as its
connectives say for the answers of the parts. -/
def Answers (s : Schema) (tests : Predicate → RowTest) (c : Combination Predicate) : Prop :=
  ∀ test, RowTest.ofPredicate s (c.eval .bare id) = .ok test →
    (∀ p ∈ c.parts, RowTest.ofPredicate s p = .ok (tests p)) ∧
    ∀ row, test.holds row = c.eval .truthValues fun p => (tests p).holds row

/-- Operands that are made ready answer as their connectives say. -/
lemma Answers.operands {cs : List (Combination Predicate)} (h : ∀ c ∈ cs, Answers s tests c)
    {ts : List RowTest} (hts : RowTest.ofPredicates s (cs.map (eval .bare id)) = .ok ts) :
    (∀ p ∈ (cs.map parts).flatten, RowTest.ofPredicate s p = .ok (tests p)) ∧
    ∀ row, ts.map (RowTest.holds row) =
      cs.map fun c => c.eval .truthValues fun p => (tests p).holds row := by
  rw [Predicate.ofPredicates_eq, mapM_ok_iff, List.forall₂_map_left_iff] at hts
  induction hts with
  | nil => exact ⟨by simp, by simp⟩
  | cons hc _ ih =>
    obtain ⟨hparts, hrow⟩ := h _ List.mem_cons_self _ hc
    obtain ⟨hrest, hrows⟩ := ih fun c hmem => h c (List.mem_cons_of_mem _ hmem)
    refine ⟨fun p hp => ?_, fun row => ?_⟩
    · rw [List.map_cons, List.flatten_cons, List.mem_append] at hp
      exact hp.elim (hparts p) (hrest p)
    · rw [List.map_cons, List.map_cons, hrow, hrows]

lemma Answers.all {cs : List (Combination Predicate)} (h : ∀ c ∈ cs, Answers s tests c) :
    Answers s tests (.all cs) := by
  intro test ht
  rw [eval_all] at ht
  obtain ⟨ts, hts, rfl⟩ := map_ok_iff.mp ht
  obtain ⟨hparts, hrows⟩ := operands h hts
  refine ⟨?_, fun row => ?_⟩
  · rw [parts, eval_all]
    exact hparts
  · rw [eval_all, RowTest.holds, Predicate.allHold_eq]
    show _ = List.and _
    rw [← hrows, List.and, List.all_map]
    rfl

lemma Answers.any {cs : List (Combination Predicate)} (h : ∀ c ∈ cs, Answers s tests c) :
    Answers s tests (.any cs) := by
  intro test ht
  rw [eval_any] at ht
  obtain ⟨ts, hts, rfl⟩ := map_ok_iff.mp ht
  obtain ⟨hparts, hrows⟩ := operands h hts
  refine ⟨?_, fun row => ?_⟩
  · rw [parts, eval_any]
    exact hparts
  · rw [eval_any, RowTest.holds, Predicate.someHolds_eq]
    show _ = List.or _
    rw [← hrows, List.or, List.any_map]
    rfl

/-- If every condition that can be made ready has the given test, combinations answer as their
connectives say. -/
lemma answers (ht : ∀ p test, RowTest.ofPredicate s p = .ok test → tests p = test)
    (c : Combination Predicate) : Answers s tests c := by
  induction c with
  | part p =>
    intro test hp
    obtain rfl := ht p test hp
    exact ⟨fun q hq => by rwa [List.mem_singleton.mp hq], fun row => rfl⟩
  | all cs ih => exact .all ih
  | any cs ih => exact .any ih
  | both c d ihc ihd =>
    -- Two operands are a list of two.
    have hlist : Answers s tests (.all [c, d]) := .all (by simp [ihc, ihd])
    intro test hcd
    obtain ⟨hparts, hrow⟩ := hlist test hcd
    refine ⟨fun p hp => hparts p ?_, fun row => (hrow row).trans ?_⟩
    · show p ∈ c.parts ++ (d.parts ++ [])
      rwa [List.append_nil]
    · exact congrArg (and _) (Bool.and_true _)
  | either c d ihc ihd =>
    have hlist : Answers s tests (.any [c, d]) := .any (by simp [ihc, ihd])
    intro test hcd
    obtain ⟨hparts, hrow⟩ := hlist test hcd
    refine ⟨fun p hp => hparts p ?_, fun row => (hrow row).trans ?_⟩
    · show p ∈ c.parts ++ (d.parts ++ [])
      rwa [List.append_nil]
    · exact congrArg (or _) (Bool.or_false _)
  | negation c ih =>
    intro test hc
    obtain ⟨inner, hinner, rfl⟩ := map_ok_iff.mp hc
    obtain ⟨hparts, hrow⟩ := ih inner hinner
    exact ⟨hparts, fun row => congrArg (!·) (hrow row)⟩

/-- A combination with the flat constructors and the same one with the bare constructors compare the same
columns in the same order. For any table both can be made ready, and then so can the parts and for every
row both answer as the connectives say for the answers of the parts. Or both fail with one error, that of
the first comparison that fails by itself. -/
theorem flat_agrees_with_bare (c : Combination Predicate) (s : Schema) :
    let flat := c.eval .flat id
    let bare := c.eval .bare id
    flat.lookups = bare.lookups ∧
    ((∃ (test test' : RowTest) (tests : Predicate → RowTest),
        RowTest.ofPredicate s flat = .ok test ∧ RowTest.ofPredicate s bare = .ok test' ∧
        (∀ p ∈ c.parts, RowTest.ofPredicate s p = .ok (tests p)) ∧
        ∀ row, test.holds row = c.eval .truthValues (fun p => (tests p).holds row) ∧
          test'.holds row = c.eval .truthValues fun p => (tests p).holds row) ∨
      ∃ before l after e, flat.lookups = before ++ l :: after ∧
        (∀ b ∈ before, ∃ test, RowTest.ofPredicate s (.lookup b) = .ok test) ∧
        RowTest.ofPredicate s (.lookup l) = .error e ∧
        RowTest.ofPredicate s flat = .error e ∧ RowTest.ofPredicate s bare = .error e) := by
  intro flat bare
  have same : Predicate.truth s flat = Predicate.truth s bare := Predicate.truth_eval_flat s c
  refine ⟨Predicate.lookups_eval_flat c, ?_⟩
  cases hbare : RowTest.ofPredicate s bare with
  | ok test' =>
    rw [Predicate.truth, Predicate.truth, hbare] at same
    obtain ⟨test, hflat, hholds⟩ := map_ok_iff.mp same
    have hanswers : Answers s (fun p => (RowTest.ofPredicate s p).toOption.getD test) c :=
      answers (fun p made hp => by rw [hp]; rfl) c
    obtain ⟨hparts, hrow⟩ := hanswers test' hbare
    refine .inl ⟨test, test', _, hflat, rfl, hparts, fun row => ⟨?_, hrow row⟩⟩
    exact (congrFun hholds row).trans (hrow row)
  | error e =>
    have hflat : RowTest.ofPredicate s flat = .error e := by
      rw [Predicate.truth, Predicate.truth, hbare] at same
      exact map_error_iff.mp same
    obtain ⟨before, l, after, hlookups, hbefore, hl⟩ := Predicate.ofPredicate_error_iff.mp hflat
    exact .inr ⟨before, l, after, e, hlookups, hbefore, hl, hflat, rfl⟩

end Combination

end RowQuery
