import Mathlib.Algebra.Order.Field.Power
import Mathlib.Data.Int.ConditionallyCompleteOrder
import Mathlib.Data.Rat.Cast.Order
import Mathlib.Order.Monotone.Basic
import Mathlib.Tactic.FieldSimp
import Mathlib.Tactic.Lemma
import Mathlib.Tactic.Linarith
import Mathlib.Tactic.Ring
import RowQuery.Numeric.Binary64

/-!
The numbers that floating-point numbers stand for. The magnitude of a rank grows with the rank, by one
unit in the last place at a time (`magnitude_succ`), so comparing keys is comparing numbers:
`compare?_of_finite`.
-/

namespace RowQuery.Numeric

/-- A multiple of a power is a quotient of natural numbers. -/
lemma mul_zpow_eq_div (b n : ℕ) (k : ℤ) :
    (n : ℚ) * (b : ℚ) ^ k = (n * b ^ k.toNat : ℕ) / (b ^ (-k).toNat : ℕ) := by
  rcases le_total 0 k with h | h
  · obtain ⟨m, rfl⟩ := Int.eq_ofNat_of_zero_le h
    simp
  · obtain ⟨m, rfl⟩ := Int.exists_eq_neg_ofNat h
    simp [div_eq_mul_inv]

namespace Binary64

/-- The finite magnitude of a rank. -/
def magnitude (rank : ℕ) : ℚ := significand rank * (2 : ℚ) ^ exponent rank

lemma significand_pos {r : ℕ} (h : 0 < r) : 0 < significand r := by
  rw [significand]
  split_ifs <;> omega

/-- A rank is told by its power of two and its significand. -/
lemma rank_eq (r : ℕ) : (exponent r + 1074).toNat * 2 ^ 52 + significand r = r := by
  by_cases low : r < 2 ^ 52
  · have hexp : exponent r = -1074 := if_pos low
    have hsig : significand r = r := if_pos low
    omega
  · have hexp : exponent r = (r / 2 ^ 52 : ℕ) - 1075 := if_neg low
    have hsig : significand r = 2 ^ 52 + r % 2 ^ 52 := if_neg low
    omega

/-- The next rank has the next significand, or the least one at the next power of two. -/
lemma succ_cases (r : ℕ) :
    (significand (r + 1) = significand r + 1 ∧ exponent (r + 1) = exponent r) ∨
    (significand (r + 1) = 2 ^ 52 ∧ significand r + 1 = 2 ^ 53 ∧
      exponent (r + 1) = exponent r + 1) := by
  by_cases carry : 2 ^ 52 ≤ r ∧ r % 2 ^ 52 + 1 = 2 ^ 52
  · refine .inr ⟨?_, ?_, ?_⟩
    · rw [significand]; split_ifs <;> omega
    · rw [significand]; split_ifs <;> omega
    · rw [exponent, exponent]; split_ifs <;> omega
  · refine .inl ⟨?_, ?_⟩
    · rw [significand, significand]; split_ifs <;> omega
    · rw [exponent, exponent]; split_ifs <;> omega

/-- The next magnitude is one unit in the last place away. -/
lemma magnitude_succ (r : ℕ) : magnitude (r + 1) = magnitude r + (2 : ℚ) ^ exponent r := by
  rw [magnitude, magnitude]
  obtain ⟨hs, he⟩ | ⟨hs, hs', he⟩ := succ_cases r
  · rw [hs, he]
    push_cast
    ring
  · have hq : (significand r : ℚ) + 1 = 2 ^ 53 := by exact_mod_cast hs'
    rw [hs, he, zpow_add_one₀ (by norm_num), ← add_one_mul, hq]
    push_cast
    ring

lemma magnitude_strictMono : StrictMono magnitude := by
  refine strictMono_nat_of_lt_succ fun r => ?_
  rw [magnitude_succ]
  exact lt_add_of_pos_right _ (zpow_pos (by norm_num) _)

@[simp]
lemma magnitude_zero : magnitude 0 = 0 := by simp [magnitude, significand]

lemma magnitude_nonneg (r : ℕ) : 0 ≤ magnitude r :=
  magnitude_zero ▸ magnitude_strictMono.monotone (Nat.zero_le r)

/-- The quotient of a rank is its magnitude. -/
lemma quotient_eq (r : ℕ) : ((quotient r).1 : ℚ) / (quotient r).2 = magnitude r := by
  have h := mul_zpow_eq_div 2 (significand r) (exponent r)
  rw [Nat.cast_two] at h
  exact h.symm

/-- The number at a place on the line of numbers. -/
def place (k : ℤ) : ℚ := if k < 0 then -magnitude k.natAbs else magnitude k.natAbs

lemma place_strictMono : StrictMono place := by
  intro j k h
  rw [place, place]
  -- No place at or above zero comes before one below zero.
  split_ifs with hj hk hk
  · exact neg_lt_neg (magnitude_strictMono (by omega))
  · have hpos : magnitude 0 < magnitude j.natAbs := magnitude_strictMono (by omega)
    have hk := magnitude_nonneg k.natAbs
    rw [magnitude_zero] at hpos
    linarith
  · omega
  · exact magnitude_strictMono (by omega)

/-- The number that a finite floating-point number stands for. -/
def value : Binary64 → ℚ
  | finite negative rank _ => if negative then -magnitude rank else magnitude rank
  | _ => 0

/-- The key of a finite number is its place. -/
lemma key?_of_finite {x : Binary64} (h : x.isFinite = true) :
    ∃ k : ℤ, x.key? = some k ∧ x.value = place k := by
  cases x with
  | nan => cases h
  | infinite negative => cases h
  | finite negative rank hr =>
    refine ⟨_, rfl, ?_⟩
    rw [value, place]
    cases negative with
    | false => simp
    | true => rcases rank.eq_zero_or_pos with rfl | hpos <;> simp [*]

/-- Finite numbers compare like the numbers that they stand for. -/
lemma compare?_of_finite {x y : Binary64} (hx : x.isFinite = true) (hy : y.isFinite = true) :
    x.compare? y = some (compare x.value y.value) := by
  obtain ⟨j, hj, hxv⟩ := key?_of_finite hx
  obtain ⟨k, hk, hyv⟩ := key?_of_finite hy
  have hc : compare (place j) (place k) = compare j k := by
    rw [← cmp_eq_compare, ← cmp_eq_compare, place_strictMono.cmp_map_eq]
  rw [compare?, hj, hk, hxv, hyv, hc]
  rfl

end Binary64

end RowQuery.Numeric
