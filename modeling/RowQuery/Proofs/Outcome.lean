import Mathlib.Data.List.Forall2
import Mathlib.Tactic.Lemma

/-!
Computations that may fail. A computation made of parts succeeds iff its parts do, and a walk over a
list fails with the error of the first element that fails: `mapM_ok_iff` and
`mapM_error_iff`. Two computations that run alike are compared by `Agree`: they fail with one error or
give related results.
-/

namespace RowQuery.Outcome

variable {α β γ ε ε' : Type}

/-- A chain succeeds iff both of its parts succeed. -/
lemma bind_ok_iff {x : Except ε α} {f : α → Except ε β} {b : β} :
    (x >>= f) = .ok b ↔ ∃ a, x = .ok a ∧ f a = .ok b := by
  cases x with
  | error e => simp [bind, Except.bind]
  | ok a => simp [bind, Except.bind]

/-- A chain fails iff its first part fails, or its second one does behind a first that succeeds. -/
lemma bind_error_iff {x : Except ε α} {f : α → Except ε β} {e : ε} :
    (x >>= f) = .error e ↔ x = .error e ∨ ∃ a, x = .ok a ∧ f a = .error e := by
  cases x with
  | error e' => simp [bind, Except.bind]
  | ok a => simp [bind, Except.bind]

lemma map_ok_iff {x : Except ε α} {f : α → β} {b : β} :
    x.map f = .ok b ↔ ∃ a, x = .ok a ∧ f a = b := by
  cases x <;> simp [Except.map]

lemma map_error_iff {x : Except ε α} {f : α → β} {e : ε} : x.map f = .error e ↔ x = .error e := by
  cases x <;> simp [Except.map]

lemma mapError_ok_iff {x : Except ε α} {f : ε → ε'} {a : α} : x.mapError f = .ok a ↔ x = .ok a := by
  cases x <;> simp [Except.mapError]

lemma mapError_error_iff {x : Except ε α} {f : ε → ε'} {e : ε'} :
    x.mapError f = .error e ↔ ∃ e', x = .error e' ∧ f e' = e := by
  cases x <;> simp [Except.mapError]

/-- What does not succeed fails. -/
lemma exists_error_iff {x : Except ε α} : (∃ e, x = .error e) ↔ ¬∃ a, x = .ok a := by
  cases x <;> simp

lemma mem_toOption_iff {x : Except ε α} {a : α} : a ∈ x.toOption ↔ x = .ok a := by
  cases x <;> simp [Except.toOption]

/-- A walk succeeds iff every element does, and its results stand in the order of the elements. -/
lemma mapM_ok_iff {f : α → Except ε β} {xs : List α} {ys : List β} :
    xs.mapM f = .ok ys ↔ List.Forall₂ (fun x y => f x = .ok y) xs ys := by
  induction xs generalizing ys with
  | nil => cases ys <;> simp [pure, Except.pure]
  | cons x xs ih =>
    rw [List.mapM_cons, bind_ok_iff]
    constructor
    · rintro ⟨y, hy, h⟩
      obtain ⟨zs, hzs, h⟩ := bind_ok_iff.mp h
      cases h
      exact .cons hy (ih.mp hzs)
    · intro h
      cases h with
      | cons hy hzs => exact ⟨_, hy, bind_ok_iff.mpr ⟨_, ih.mpr hzs, rfl⟩⟩

/-- A walk fails iff some element fails behind elements that succeed; the error is that of this
element. -/
lemma mapM_error_iff {f : α → Except ε β} {xs : List α} {e : ε} :
    xs.mapM f = .error e ↔
      ∃ before x after, xs = before ++ x :: after ∧ (∀ y ∈ before, ∃ z, f y = .ok z) ∧
        f x = .error e := by
  induction xs with
  | nil => simp [pure, Except.pure]
  | cons x xs ih =>
    rw [List.mapM_cons, bind_error_iff]
    constructor
    · rintro (h | ⟨y, hy, h⟩)
      · exact ⟨[], x, xs, rfl, by simp, h⟩
      · rcases bind_error_iff.mp h with h | ⟨_, _, h⟩
        · obtain ⟨before, z, after, rfl, hb, hz⟩ := ih.mp h
          refine ⟨x :: before, z, after, rfl, ?_, hz⟩
          intro w hw
          rcases List.mem_cons.mp hw with rfl | hw
          · exact ⟨y, hy⟩
          · exact hb w hw
        · cases h
    · rintro ⟨before, z, after, h, hb, hz⟩
      cases before with
      | nil =>
        obtain ⟨rfl, rfl⟩ := List.cons.inj h
        exact .inl hz
      | cons w before =>
        obtain ⟨rfl, rfl⟩ := List.cons.inj h
        obtain ⟨y, hy⟩ := hb x (by simp)
        refine .inr ⟨y, hy, bind_error_iff.mpr (.inl ?_)⟩
        exact ih.mpr ⟨before, z, after, rfl, fun v hv => hb v (by simp [hv]), hz⟩

/-- A walk over elements with their places fails for the first element that fails at its place. -/
lemma mapM_zipIdx_error_iff {f : α × Nat → Except ε β} {xs : List α} {e : ε} :
    xs.zipIdx.mapM f = .error e ↔
      ∃ before x after, xs = before ++ x :: after ∧ (∀ y ∈ before.zipIdx, ∃ z, f y = .ok z) ∧
        f (x, before.length) = .error e := by
  rw [mapM_error_iff]
  constructor
  · rintro ⟨before, x, after, h, hb, hx⟩
    have hxs : xs = before.map Prod.fst ++ x.1 :: after.map Prod.fst := by
      rw [← List.zipIdx_map_fst 0 xs, h]
      simp
    rw [hxs, List.zipIdx_append, List.zipIdx_cons, Nat.zero_add] at h
    obtain ⟨hbefore, hrest⟩ := List.append_inj h (by simp)
    obtain ⟨hplace, -⟩ := List.cons.inj hrest
    refine ⟨_, _, _, hxs, ?_, ?_⟩
    · rwa [hbefore]
    · rwa [hplace]
  · rintro ⟨before, x, after, rfl, hb, hx⟩
    refine ⟨before.zipIdx, (x, before.length), after.zipIdx (before.length + 1), ?_, hb, hx⟩
    rw [List.zipIdx_append, List.zipIdx_cons, Nat.zero_add]

/-- What changes each result changes the results of a walk. -/
lemma mapM_map_eq {f : α → Except ε β} {g : β → γ} {xs : List α} :
    xs.mapM (fun x => (f x).map g) = (xs.mapM f).map (List.map g) := by
  induction xs with
  | nil => rfl
  | cons x xs ih =>
    rw [List.mapM_cons, List.mapM_cons, ih]
    cases f x with
    | error e => rfl
    | ok y => cases xs.mapM f <;> rfl

/-- Two walks one behind the other succeed like one walk that does both steps for each element. -/
lemma mapM_mapM_ok_iff {f : α → Except ε β} {g : β → Except ε γ} {xs : List α}
    {zs : List γ} : (∃ ys, xs.mapM f = .ok ys ∧ ys.mapM g = .ok zs) ↔
      xs.mapM (fun x => f x >>= g) = .ok zs := by
  simp only [mapM_ok_iff, bind_ok_iff]
  constructor
  · rintro ⟨ys, hf, hg⟩
    induction hf generalizing zs with
    | nil =>
      cases hg
      exact .nil
    | cons hxy _ ih =>
      cases hg with
      | cons hyz hg => exact .cons ⟨_, hxy, hyz⟩ (ih hg)
  · intro h
    induction h with
    | nil => exact ⟨[], .nil, .nil⟩
    | cons hxz _ ih =>
      obtain ⟨y, hxy, hyz⟩ := hxz
      obtain ⟨ys, hf, hg⟩ := ih
      exact ⟨y :: ys, .cons hxy hf, .cons hyz hg⟩

/-- An element of one of two related lists has a partner in the other one. -/
lemma exists_of_mem_left {R : α → β → Prop} {xs : List α} {ys : List β} (h : List.Forall₂ R xs ys) :
    ∀ x ∈ xs, ∃ y ∈ ys, R x y := by
  induction h with
  | nil => simp
  | cons hxy _ ih =>
    intro x hx
    rcases List.mem_cons.mp hx with rfl | hx
    · exact ⟨_, by simp, hxy⟩
    · obtain ⟨y, hy, h⟩ := ih x hx
      exact ⟨y, by simp [hy], h⟩

lemma exists_of_mem_right {R : α → β → Prop} {xs : List α} {ys : List β}
    (h : List.Forall₂ R xs ys) : ∀ y ∈ ys, ∃ x ∈ xs, R x y :=
  exists_of_mem_left h.flip

/-- A walk succeeds iff every element does. -/
lemma exists_mapM_ok_iff {f : α → Except ε β} {xs : List α} :
    (∃ ys, xs.mapM f = .ok ys) ↔ ∀ x ∈ xs, ∃ y, f x = .ok y := by
  constructor
  · rintro ⟨ys, h⟩ x hx
    obtain ⟨y, -, h⟩ := exists_of_mem_left (mapM_ok_iff.mp h) x hx
    exact ⟨y, h⟩
  · intro h
    cases ht : xs.mapM f with
    | ok ys => exact ⟨ys, rfl⟩
    | error e =>
      obtain ⟨before, x, after, rfl, -, hx⟩ := mapM_error_iff.mp ht
      obtain ⟨y, hy⟩ := h x (by simp)
      rw [hy] at hx
      cases hx

/-- The two fail with one error, or succeed with related results. -/
inductive Agree (R : α → β → Prop) : Except ε α → Except ε β → Prop where
  | ok {a : α} {b : β} : R a b → Agree R (.ok a) (.ok b)
  | error (e : ε) : Agree R (.error e) (.error e)

namespace Agree

variable {α' β' : Type} {R : α → β → Prop} {S : α' → β' → Prop}

lemma bind {x : Except ε α} {y : Except ε β} {f : α → Except ε α'} {g : β → Except ε β'}
    (h : Agree R x y) (hfg : ∀ a b, R a b → Agree S (f a) (g b)) : Agree S (x >>= f) (y >>= g) := by
  cases h with
  | ok hab => exact hfg _ _ hab
  | error e => exact .error e

lemma map {x : Except ε α} {y : Except ε β} {f : α → α'} {g : β → β'}
    (h : Agree R x y) (hfg : ∀ a b, R a b → S (f a) (g b)) : Agree S (x.map f) (y.map g) := by
  cases h with
  | ok hab => exact .ok (hfg _ _ hab)
  | error e => exact .error e

lemma map_left {x : Except ε α} {y : Except ε β} {f : α → α'} {T : α' → β → Prop}
    (h : Agree R x y) (hf : ∀ a b, R a b → T (f a) b) : Agree T (x.map f) y := by
  cases h with
  | ok hab => exact .ok (hf _ _ hab)
  | error e => exact .error e

lemma mapError {x : Except ε α} {y : Except ε β} (h : Agree R x y) (f : ε → ε') :
    Agree R (x.mapError f) (y.mapError f) := by
  cases h with
  | ok hab => exact .ok hab
  | error e => exact .error _

/-- The two fail together and with one error. -/
lemma error_iff {x : Except ε α} {y : Except ε β} (h : Agree R x y) {e : ε} :
    x = .error e ↔ y = .error e := by
  cases h <;> simp

/-- What succeeds on one side succeeds on the other side with a related result. -/
lemma of_ok {y : Except ε β} {a : α} (h : Agree R (.ok a) y) : ∃ b, y = .ok b ∧ R a b := by
  cases h with
  | ok hab => exact ⟨_, rfl, hab⟩

end Agree

/-- A computation agrees with itself. -/
lemma agree_refl (x : Except ε α) : Agree Eq x x := by
  cases x with
  | ok a => exact .ok rfl
  | error e => exact .error e

end RowQuery.Outcome
