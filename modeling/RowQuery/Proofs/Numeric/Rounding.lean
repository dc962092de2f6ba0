import Mathlib.Data.Int.Log
import Mathlib.Data.Nat.Log
import Mathlib.Data.Rat.Floor
import RowQuery.Proofs.Numeric.Magnitude

/-!
Rounding to the nearest floating-point number. `ofQuotient` compares powers of two with quotients of
naturals by cross multiplication; all that counts is the number the quotient stands for
(`ofQuotient_congr`), and a number that is a magnitude already is not changed (`ofQuotient_magnitude`).
-/

namespace RowQuery.Numeric

/-- Powers of a base are compared with quotients by cross multiplication. -/
lemma zpow_le_div_iff {b num den : ℕ} (hb : 0 < b) (hd : 0 < den) (k : ℤ) :
    (b : ℚ) ^ k ≤ num / den ↔ den * b ^ k.toNat ≤ num * b ^ (-k).toNat := by
  have hb' : (0 : ℚ) < b := by exact_mod_cast hb
  have hd' : (0 : ℚ) < den := by exact_mod_cast hd
  rw [le_div_iff₀ hd']
  rcases le_total 0 k with h | h
  · obtain ⟨n, rfl⟩ := Int.eq_ofNat_of_zero_le h
    simp only [zpow_natCast, Int.toNat_natCast, Int.toNat_neg_natCast, pow_zero, mul_one]
    rw [mul_comm]
    exact_mod_cast Iff.rfl
  · obtain ⟨n, rfl⟩ := Int.exists_eq_neg_ofNat h
    simp only [zpow_neg, zpow_natCast, neg_neg, Int.toNat_natCast, Int.toNat_neg_natCast, pow_zero,
      mul_one]
    rw [inv_mul_le_iff₀ (by positivity), mul_comm]
    exact_mod_cast Iff.rfl

/-- A power of the base below a number and the next one above it tell the logarithm. -/
lemma log_eq_of_mem {b : ℕ} {x : ℚ} {k : ℤ} (hb : 1 < b) (hl : (b : ℚ) ^ k ≤ x)
    (hu : x < (b : ℚ) ^ (k + 1)) : Int.log b x = k := by
  have hx : 0 < x := lt_of_lt_of_le (zpow_pos (by exact_mod_cast hb.le) _) hl
  have hle := (Int.zpow_le_iff_le_log hb hx).mp hl
  have hlt := (Int.lt_zpow_iff_log_lt hb hx).mp hu
  omega

/-- The logarithm of a quotient is the difference of the logarithms, or one less. -/
lemma log_div {b num den l m : ℕ} (hb : 1 < b) (hn : b ^ l ≤ num ∧ num < b ^ (l + 1))
    (hd : b ^ m ≤ den ∧ den < b ^ (m + 1)) :
    Int.log b ((num : ℚ) / den) =
      if den * b ^ ((l : ℤ) - m).toNat ≤ num * b ^ (-((l : ℤ) - m)).toNat then (l : ℤ) - m
      else (l : ℤ) - m - 1 := by
  have hb₀ : (b : ℚ) ≠ 0 := by positivity
  have hd₀ : 0 < den := lt_of_lt_of_le (by positivity) hd.1
  have hd' : (0 : ℚ) < den := by exact_mod_cast hd₀
  have hn₁ : (b : ℚ) ^ (l : ℤ) ≤ num := by exact_mod_cast hn.1
  have hn₂ : (num : ℚ) < (b : ℚ) ^ ((l : ℤ) + 1) := by exact_mod_cast hn.2
  have hd₁ : (b : ℚ) ^ (m : ℤ) ≤ den := by exact_mod_cast hd.1
  have hd₂ : (den : ℚ) < (b : ℚ) ^ ((m : ℤ) + 1) := by exact_mod_cast hd.2
  split_ifs with h
  · rw [← zpow_le_div_iff (by omega) hd₀] at h
    refine log_eq_of_mem hb h ?_
    rw [div_lt_iff₀ hd']
    calc (num : ℚ) < (b : ℚ) ^ ((l : ℤ) + 1) := hn₂
      _ = (b : ℚ) ^ ((l : ℤ) - m + 1) * (b : ℚ) ^ (m : ℤ) := by
        rw [← zpow_add₀ hb₀]; congr 1; ring
      _ ≤ (b : ℚ) ^ ((l : ℤ) - m + 1) * den := by gcongr
  · rw [← zpow_le_div_iff (by omega) hd₀, not_le] at h
    refine log_eq_of_mem hb ?_ (by simpa using h)
    rw [le_div_iff₀ hd']
    calc (b : ℚ) ^ ((l : ℤ) - m - 1) * den
        ≤ (b : ℚ) ^ ((l : ℤ) - m - 1) * (b : ℚ) ^ ((m : ℤ) + 1) := by gcongr
      _ = (b : ℚ) ^ (l : ℤ) := by rw [← zpow_add₀ hb₀]; congr 1; ring
      _ ≤ num := hn₁

namespace Binary64

/-- The scale of a number is the power of two at which its significand has 53 bits. -/
lemma scale_eq {num den : ℕ} (hn : 0 < num) (hd : 0 < den) :
    scale num den = max (Int.log 2 ((num : ℚ) / den) - 52) (-1074) := by
  have hlog := log_div (b := 2) one_lt_two
    ⟨Nat.log2_self_le hn.ne', Nat.lt_log2_self⟩ ⟨Nat.log2_self_le hd.ne', Nat.lt_log2_self⟩
  -- The test is one of the quotient against a power that is 53 places higher.
  have hcond : ∀ q : ℤ, den * 2 ^ 53 * 2 ^ q.toNat ≤ num * 2 ^ (-q).toNat ↔
      den * 2 ^ (q + 53).toNat ≤ num * 2 ^ (-(q + 53)).toNat := by
    intro q
    have hd' : (0 : ℚ) < den := by exact_mod_cast hd
    rw [← zpow_le_div_iff two_pos (by positivity), ← zpow_le_div_iff two_pos hd]
    push_cast
    rw [zpow_add₀ two_ne_zero, le_div_iff₀ (by positivity), le_div_iff₀ hd', mul_comm (den : ℚ),
      ← mul_assoc]
    norm_num
  have hk : (num.log2 : ℤ) - den.log2 - 53 + 53 = (num.log2 : ℤ) - den.log2 := by ring
  simp only [scale, hcond, hk]
  norm_cast at hlog ⊢
  rw [hlog]
  split_ifs <;> congr 1 <;> ring

/-- Rounding does not depend on how the quotient is written. -/
lemma nearest_mul {k : ℕ} (hk : 0 < k) (num den : ℕ) :
    nearest (k * num) (k * den) = nearest num den := by
  have hc : compare (2 * (k * (num % den))) (k * den) = compare (2 * (num % den)) den := by
    rw [mul_left_comm, Nat.compare_eq_ite_lt, Nat.compare_eq_ite_lt]
    simp only [Nat.mul_lt_mul_left hk]
  simp only [nearest, Nat.mul_div_mul_left _ _ hk, Nat.mul_mod_mul_left, hc]

lemma nearest_congr {num den num' den' : ℕ} (hd : 0 < den) (hd' : 0 < den')
    (h : num * den' = num' * den) : nearest num den = nearest num' den' := by
  rw [← nearest_mul hd', ← nearest_mul hd num', mul_comm den' num, h, mul_comm num', mul_comm den']

/-- Rounding keeps a whole number. -/
lemma nearest_exact {den : ℕ} (hd : 0 < den) (m : ℕ) : nearest (m * den) den = m := by
  simp [nearest, hd, Nat.compare_eq_lt.mpr hd]

/-- What is below a whole number is not rounded beyond it. -/
lemma nearest_le {num den B : ℕ} (h : num < B * den) : nearest num den ≤ B := by
  have hq : num / den < B := Nat.div_lt_of_lt_mul (mul_comm B den ▸ h)
  simp only [nearest]
  split <;> omega

/-- The nearest number depends only on the number that the quotient stands for. -/
lemma ofQuotient_congr {num den num' den' : ℕ} (negative : Bool) (hd : 0 < den) (hd' : 0 < den')
    (h : num * den' = num' * den) : ofQuotient negative num den = ofQuotient negative num' den' := by
  -- Zero has no logarithm, so it is told apart first.
  rcases num.eq_zero_or_pos with rfl | hn
  · have hn' : num' = 0 := by
      rcases mul_eq_zero.mp ((zero_mul den').symm.trans h).symm with h | h
      · exact h
      · omega
    simp [ofQuotient, hn']
  · have hn' : 0 < num' := by
      rcases num'.eq_zero_or_pos with rfl | hn'
      · rw [zero_mul] at h
        exact absurd h (by positivity)
      · exact hn'
    have hq : scale num den = scale num' den' := by
      have hdq : (den : ℚ) ≠ 0 := by positivity
      have hdq' : (den' : ℚ) ≠ 0 := by positivity
      have hx : (num : ℚ) / den = num' / den' := by
        rw [div_eq_div_iff hdq hdq']
        exact_mod_cast h
      rw [scale_eq hn hd, scale_eq hn' hd', hx]
    have hm : nearest (num * 2 ^ (-scale num' den').toNat) (den * 2 ^ (scale num' den').toNat) =
        nearest (num' * 2 ^ (-scale num' den').toNat) (den' * 2 ^ (scale num' den').toNat) := by
      refine nearest_congr (by positivity) (by positivity) ?_
      rw [mul_mul_mul_comm, h, mul_mul_mul_comm num']
    simp only [ofQuotient, hn.ne', hn'.ne', if_false, hq, hm]

/-- The significand of a number has at most 53 bits. -/
lemma significand_le {num den : ℕ} (hn : 0 < num) (hd : 0 < den) :
    nearest (num * 2 ^ (-scale num den).toNat) (den * 2 ^ (scale num den).toNat) ≤ 2 ^ 53 := by
  have hx : (0 : ℚ) < (num : ℚ) / den := by positivity
  have hlog : Int.log 2 ((num : ℚ) / den) < scale num den + 53 := by
    rw [scale_eq hn hd]
    omega
  have hlt : ¬ ((2 : ℕ) : ℚ) ^ (scale num den) ≤ num / (den * 2 ^ 53 : ℕ) := by
    have hup := (Int.lt_zpow_iff_log_lt one_lt_two hx).mpr hlog
    rw [not_le]
    push_cast at hup ⊢
    rw [zpow_add₀ two_ne_zero] at hup
    rw [← div_div, div_lt_iff₀ (by positivity)]
    exact_mod_cast hup
  rw [zpow_le_div_iff two_pos (by positivity), not_le] at hlt
  refine nearest_le (hlt.trans_eq ?_)
  ring

/-- A number below the last power of two is rounded to a finite one. -/
lemma ofQuotient_isFinite {num den k : ℕ} (negative : Bool) (hd : 0 < den) (hk : k ≤ 1023)
    (h : num < 2 ^ k * den) : (ofQuotient negative num den).isFinite = true := by
  rcases num.eq_zero_or_pos with rfl | hn
  · rfl
  · have hx : (0 : ℚ) < (num : ℚ) / den := by positivity
    have hlog : Int.log 2 ((num : ℚ) / den) < k := by
      refine (Int.lt_zpow_iff_log_lt one_lt_two hx).mp ?_
      rw [div_lt_iff₀ (by positivity)]
      exact_mod_cast h
    have hq : scale num den ≤ 970 := by
      rw [scale_eq hn hd]
      omega
    have hm := significand_le hn hd
    have hr : (scale num den + 1074).toNat * 2 ^ 52 +
        nearest (num * 2 ^ (-scale num den).toNat) (den * 2 ^ (scale num den).toNat) < rankLimit := by
      rw [rankLimit]
      omega
    simp only [ofQuotient, hn.ne', if_false, ofRank, dif_pos hr, isFinite]

/-- An integer below the last power of two is rounded to a finite number. -/
lemma ofInt_isFinite {n : ℤ} {k : ℕ} (hk : k ≤ 1023) (h : n.natAbs < 2 ^ k) :
    (ofInt n).isFinite = true :=
  ofQuotient_isFinite _ one_pos hk (by simpa using h)

/-- The bits of the significand and the power of two tell the logarithm of a magnitude. -/
lemma log_magnitude {r k : ℕ} (hl : 2 ^ k ≤ significand r) (hu : significand r < 2 ^ (k + 1)) :
    Int.log 2 (magnitude r) = k + exponent r := by
  have hpos : (0 : ℚ) < 2 ^ exponent r := zpow_pos two_pos _
  have hl' : (2 : ℚ) ^ k ≤ significand r := by exact_mod_cast hl
  have hu' : (significand r : ℚ) < 2 ^ (k + 1) := by exact_mod_cast hu
  refine log_eq_of_mem one_lt_two ?_ ?_
  · rw [magnitude, Nat.cast_two, zpow_add₀ two_ne_zero, zpow_natCast]
    exact mul_le_mul_of_nonneg_right hl' hpos.le
  · rw [magnitude, Nat.cast_two, add_right_comm, zpow_add₀ two_ne_zero]
    exact_mod_cast mul_lt_mul_of_pos_right hu' hpos

/-- The scale of a magnitude is its power of two. -/
lemma scale_quotient {r : ℕ} (hr : 0 < r) : scale (quotient r).1 (quotient r).2 = exponent r := by
  have hn : 0 < (quotient r).1 := Nat.mul_pos (significand_pos hr) (by positivity)
  have hd : 0 < (quotient r).2 := pow_pos two_pos _
  rw [scale_eq hn hd, quotient_eq]
  -- Below `2 ^ 52` the least power of two stays, whatever the logarithm is.
  by_cases low : r < 2 ^ 52
  · have hsig : significand r = r := if_pos low
    have hexp : exponent r = -1074 := if_pos low
    have hbits : r.log2 < 52 := (Nat.log2_lt hr.ne').mpr low
    have hlog : Int.log 2 (magnitude r) = r.log2 + exponent r := by
      refine log_magnitude ?_ ?_
      · rw [hsig]
        exact Nat.log2_self_le hr.ne'
      · rw [hsig]
        exact Nat.lt_log2_self
    rw [hlog, hexp]
    omega
  · have hsig : significand r = 2 ^ 52 + r % 2 ^ 52 := if_neg low
    have hexp : exponent r = (r / 2 ^ 52 : ℕ) - 1075 := if_neg low
    have hlog : Int.log 2 (magnitude r) = (52 : ℕ) + exponent r :=
      log_magnitude (by omega) (by omega)
    rw [hlog, hexp]
    omega

/-- A number that is a finite magnitude already is not changed. -/
lemma ofQuotient_quotient (negative : Bool) (r : ℕ) :
    ofQuotient negative (quotient r).1 (quotient r).2 = ofRank negative r := by
  rcases r.eq_zero_or_pos with rfl | hr
  · have hn : (quotient 0).1 = 0 := by simp [quotient, significand]
    rw [ofQuotient, hn, if_pos rfl]
  · have hn : (quotient r).1 ≠ 0 := (Nat.mul_pos (significand_pos hr) (by positivity)).ne'
    have hm : nearest ((quotient r).1 * 2 ^ (-exponent r).toNat)
        ((quotient r).2 * 2 ^ (exponent r).toNat) = significand r := by
      have hc : (quotient r).1 * 2 ^ (-exponent r).toNat =
          significand r * ((quotient r).2 * 2 ^ (exponent r).toNat) := by
        exact mul_assoc _ _ _ |>.trans (congrArg _ (mul_comm _ _))
      rw [hc]
      exact nearest_exact (Nat.mul_pos (pow_pos two_pos _) (by positivity)) _
    rw [ofQuotient, if_neg hn, scale_quotient hr]
    dsimp only
    rw [hm, rank_eq]

/-- A quotient that stands for a finite magnitude is rounded to it. -/
lemma ofQuotient_magnitude {num den r : ℕ} (negative : Bool) (hd : 0 < den)
    (h : (num : ℚ) / den = magnitude r) : ofQuotient negative num den = ofRank negative r := by
  have hdr : 0 < (quotient r).2 := pow_pos two_pos _
  have hdq : (den : ℚ) ≠ 0 := by positivity
  have hdq' : ((quotient r).2 : ℚ) ≠ 0 := by positivity
  rw [← ofQuotient_quotient]
  refine ofQuotient_congr negative hd hdr ?_
  rw [← quotient_eq, div_eq_div_iff hdq hdq'] at h
  exact_mod_cast h

end Binary64

end RowQuery.Numeric
