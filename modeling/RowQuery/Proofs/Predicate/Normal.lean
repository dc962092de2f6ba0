import RowQuery.Proofs.Predicate.Combinations

/-!
Flat conditions. What the flattening constructors make of flat conditions is flat again, although each of
them looks at one level only, so every condition that is put together from comparisons with them is
`Normal`. For normal conditions negation is its own inverse; joining is associative for all conditions, as
it is joining the lists of conjuncts: `laws_of_flattening`.
-/

namespace RowQuery.Predicate

/-- At no depth a conjunction stands right inside a conjunction, a disjunction right inside a disjunction or
a negation right inside a negation. -/
inductive Normal : Predicate → Prop where
  | lookup (l : Lookup) : Normal (.lookup l)
  | and {children : List Predicate} : (∀ p ∈ children, Normal p) → (∀ ps, .and ps ∉ children) →
    Normal (.and children)
  | or {children : List Predicate} : (∀ p ∈ children, Normal p) → (∀ ps, .or ps ∉ children) →
    Normal (.or children)
  | not {child : Predicate} : Normal child → (∀ p, child ≠ .not p) → Normal (.not child)

variable {p : Predicate} {ps : List Predicate}

/-- A normal condition gives a conjunction normal parts and no conjunction. -/
lemma Normal.of_mem_conjuncts (h : Normal p) :
    (∀ q ∈ p.conjuncts, Normal q) ∧ ∀ qs, .and qs ∉ p.conjuncts := by
  cases h with
  | and hchildren hnone => exact ⟨hchildren, hnone⟩
  | lookup l => exact ⟨by simp [conjuncts, Normal.lookup l], by simp [conjuncts]⟩
  | or hchildren hnone => exact ⟨by simp [conjuncts, Normal.or hchildren hnone], by simp [conjuncts]⟩
  | not hchild hnone => exact ⟨by simp [conjuncts, Normal.not hchild hnone], by simp [conjuncts]⟩

/-- A normal condition gives a disjunction normal parts and no disjunction. -/
lemma Normal.of_mem_disjuncts (h : Normal p) :
    (∀ q ∈ p.disjuncts, Normal q) ∧ ∀ qs, .or qs ∉ p.disjuncts := by
  cases h with
  | or hchildren hnone => exact ⟨hchildren, hnone⟩
  | lookup l => exact ⟨by simp [disjuncts, Normal.lookup l], by simp [disjuncts]⟩
  | and hchildren hnone =>
    exact ⟨by simp [disjuncts, Normal.and hchildren hnone], by simp [disjuncts]⟩
  | not hchild hnone => exact ⟨by simp [disjuncts, Normal.not hchild hnone], by simp [disjuncts]⟩

lemma Normal.all (h : ∀ p ∈ ps, Normal p) : Normal (.all ps) := by
  refine .and (fun q hq => ?_) (fun qs hqs => ?_)
  · obtain ⟨p, hp, hq⟩ := List.mem_flatMap.mp hq
    exact (h p hp).of_mem_conjuncts.1 q hq
  · obtain ⟨p, hp, hqs⟩ := List.mem_flatMap.mp hqs
    exact (h p hp).of_mem_conjuncts.2 qs hqs

lemma Normal.any (h : ∀ p ∈ ps, Normal p) : Normal (.any ps) := by
  refine .or (fun q hq => ?_) (fun qs hqs => ?_)
  · obtain ⟨p, hp, hq⟩ := List.mem_flatMap.mp hq
    exact (h p hp).of_mem_disjuncts.1 q hq
  · obtain ⟨p, hp, hqs⟩ := List.mem_flatMap.mp hqs
    exact (h p hp).of_mem_disjuncts.2 qs hqs

/-- Below a negation that is taken off there is no other one. -/
lemma Normal.negate (h : Normal p) : Normal p.negate := by
  cases h with
  | not hchild _ => exact hchild
  | lookup l => exact .not (.lookup l) nofun
  | and hchildren hnone => exact .not (.and hchildren hnone) nofun
  | or hchildren hnone => exact .not (.or hchildren hnone) nofun

/-- Negating a normal condition twice gives it back. -/
lemma Normal.negate_negate (h : Normal p) : p.negate.negate = p := by
  cases h with
  | @not child _ hnone =>
    cases child with
    | not q => exact absurd rfl (hnone q)
    | lookup l | and ps | or ps => rfl
  | lookup l | and _ _ | or _ _ => rfl

/-- What is put together from comparisons with the flat constructors is normal. -/
lemma normal_eval_flat (c : Combination Lookup) : Normal (c.eval .flat .lookup) := by
  induction c with
  | part l => exact .lookup l
  | all cs ih =>
    rw [Combination.eval_all]
    exact .all (List.forall_mem_map.mpr ih)
  | any cs ih =>
    rw [Combination.eval_any]
    exact .any (List.forall_mem_map.mpr ih)
  | both c d ihc ihd => exact .all (by simp [ihc, ihd])
  | either c d ihc ihd => exact .any (by simp [ihc, ihd])
  | negation c ih => exact ih.negate

/-- Joining two conditions joins their conjuncts. -/
lemma and_eq (p q : Predicate) : p &&& q = .and (p.conjuncts ++ q.conjuncts) := by
  show Predicate.all [p, q] = _
  rw [Predicate.all, List.flatMap_cons, List.flatMap_singleton]

lemma or_eq (p q : Predicate) : p ||| q = .or (p.disjuncts ++ q.disjuncts) := by
  show Predicate.any [p, q] = _
  rw [Predicate.any, List.flatMap_cons, List.flatMap_singleton]

/-- Every condition that is put together from comparisons with the flat constructors is normal, and negating
it twice gives it back. Whatever the conditions, "and" and "or" are associative, and the conjunction of two
lists is that of their conjunctions. -/
theorem laws_of_flattening :
    (∀ c : Combination Lookup, Normal (c.eval .flat lookup) ∧
      ~~~(~~~(c.eval .flat lookup)) = c.eval .flat lookup) ∧
    (∀ p q r : Predicate, (p &&& q) &&& r = p &&& (q &&& r)) ∧
    (∀ p q r : Predicate, (p ||| q) ||| r = p ||| (q ||| r)) ∧
    ∀ ps qs : List Predicate, all (ps ++ qs) = all ps &&& all qs := by
  refine ⟨fun c => ⟨normal_eval_flat c, (normal_eval_flat c).negate_negate⟩, fun p q r => ?_,
    fun p q r => ?_, fun ps qs => ?_⟩
  · rw [and_eq, and_eq, and_eq, and_eq]
    exact congrArg _ (List.append_assoc ..)
  · rw [or_eq, or_eq, or_eq, or_eq]
    exact congrArg _ (List.append_assoc ..)
  · rw [and_eq, all, List.flatMap_append]
    rfl

/-- A double negation of bare constructors, which is not normal, does not come back. -/
example (l : Lookup) : ~~~(~~~(not (not (lookup l)))) = lookup l := rfl

end RowQuery.Predicate
