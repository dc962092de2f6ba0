import RowQuery.Numeric.Decimal
import RowQuery.Numeric.Shortest
import RowQuery.Proofs.Numeric.Digits
import RowQuery.Proofs.Numeric.Rounding

/-!
The plain text of a finite number is read back as the number. What a decimal is read as depends on its
value alone (`ofDecimal_congr`), so neither trailing zeros nor the place of the point matter. What is
written is a decimal that was found to read as the number, or else its exact value
(`shortest_readsAs`).
-/

namespace RowQuery.Numeric

/-- The number that a decimal stands for. -/
def Decimal.value (d : Decimal) : ℚ := d.digits * (10 : ℚ) ^ d.power

namespace Decimal

variable {d d' : Decimal}

lemma value_eq_div (d : Decimal) :
    d.value = (d.digits * 10 ^ d.power.toNat : ℕ) / (10 ^ (-d.power).toNat : ℕ) :=
  mul_zpow_eq_div 10 d.digits d.power

lemma value_pos (h : d.digits ≠ 0) : 0 < d.value := by
  have hd : 0 < d.digits := Nat.pos_of_ne_zero h
  rw [value]
  positivity

/-- The length of the digits tells the logarithm. -/
lemma log_value (h : d.digits ≠ 0) :
    (Nat.toDigits 10 d.digits).length + d.power = Int.log 10 d.value + 1 := by
  -- One digit more than there are powers of ten below the number.
  obtain ⟨l, hl⟩ :=
    Nat.exists_eq_succ_of_ne_zero (Nat.length_toDigits_pos (b := 10) (n := d.digits)).ne'
  have hlow : 10 ^ l ≤ d.digits := by
    rcases l.eq_zero_or_pos with rfl | hpos
    · omega
    · have hnot := (Nat.length_toDigits_le_iff (n := d.digits) (b := 10) (by decide) hpos).not
      omega
  have hhigh : d.digits < 10 ^ (l + 1) :=
    (Nat.length_toDigits_le_iff (by decide) (Nat.succ_pos l)).mp hl.le
  have hlow' : (10 : ℚ) ^ (l : ℤ) ≤ d.digits := by exact_mod_cast hlow
  have hhigh' : (d.digits : ℚ) < 10 ^ ((l : ℤ) + 1) := by exact_mod_cast hhigh
  have hlog : Int.log 10 d.value = l + d.power := by
    refine log_eq_of_mem (by decide) ?_ ?_
    · rw [value, Nat.cast_ofNat, zpow_add₀ (by decide)]
      gcongr
    · rw [value, Nat.cast_ofNat, add_right_comm, zpow_add₀ (by decide)]
      gcongr
  rw [hl, hlog]
  push_cast
  ring

/-- What a decimal is read as depends on its value alone. -/
lemma ofDecimal_congr (negative : Bool) (h : d.value = d'.value) :
    Binary64.ofDecimal negative d.digits d.power = Binary64.ofDecimal negative d'.digits d'.power := by
  by_cases hd : d.digits = 0
  · have hd' : d'.digits = 0 := by
      by_contra hd'
      have hpos := value_pos hd'
      rw [← h, value, hd] at hpos
      simp at hpos
    simp [Binary64.ofDecimal, hd, hd']
  · have hd' : d'.digits ≠ 0 := by
      intro hd'
      have hpos := value_pos hd
      rw [h, value, hd'] at hpos
      simp at hpos
    have htop := log_value hd
    rw [h, ← log_value hd'] at htop
    rw [value_eq_div, value_eq_div, div_eq_div_iff (by positivity) (by positivity),
      ← Nat.cast_mul, ← Nat.cast_mul, Nat.cast_inj] at h
    have hq := Binary64.ofQuotient_congr negative (by positivity) (by positivity) h
    simp only [Binary64.ofDecimal, hd, hd', htop, hq]

/-- The least magnitude above zero is no power of ten that is left out. -/
lemma zpow_le_magnitude_one : ((10 : ℕ) : ℚ) ^ (-400 : ℤ) ≤ Binary64.magnitude 1 := by
  have hpow : 2 ^ 1074 ≤ 10 ^ 400 := by decide +kernel
  have hone : Binary64.magnitude 1 = ((2 : ℚ) ^ 1074)⁻¹ := by
    have hs : Binary64.significand 1 = 1 := by decide
    have he : Binary64.exponent 1 = -(1074 : ℕ) := by decide
    rw [Binary64.magnitude, hs, he, zpow_neg, zpow_natCast, Nat.cast_one, one_mul]
  have hten : ((10 : ℕ) : ℚ) ^ (-400 : ℤ) = ((10 : ℚ) ^ 400)⁻¹ := zpow_neg _ 400
  rw [hone, hten]
  exact inv_anti₀ (by positivity) (by exact_mod_cast hpow)

/-- The magnitudes end below the powers of ten that are left out. -/
lemma magnitude_rankLimit_le : Binary64.magnitude rankLimit ≤ ((10 : ℕ) : ℚ) ^ (400 : ℤ) := by
  have hpow : 2 ^ 52 * 2 ^ 972 ≤ 10 ^ 400 := by decide +kernel
  have hs : Binary64.significand rankLimit = 2 ^ 52 := by decide
  have he : Binary64.exponent rankLimit = (972 : ℕ) := by decide
  rw [Binary64.magnitude, hs, he, zpow_natCast]
  exact_mod_cast hpow

/-- A decimal that stands for a finite magnitude is read as it. -/
lemma ofDecimal_magnitude (negative : Bool) {r : ℕ} (hr : 0 < r) (hr' : r < rankLimit)
    (h : d.value = Binary64.magnitude r) :
    Binary64.ofDecimal negative d.digits d.power = Binary64.ofRank negative r := by
  have hpos : 0 < d.value := by
    rw [h, ← Binary64.magnitude_zero]
    exact Binary64.magnitude_strictMono hr
  have hd : d.digits ≠ 0 := by
    intro hd
    simp [value, hd] at hpos
  have hlow : -400 ≤ Int.log 10 d.value := by
    rw [← Int.zpow_le_iff_le_log (by decide) hpos, h]
    exact zpow_le_magnitude_one.trans (Binary64.magnitude_strictMono.monotone hr)
  have hhigh : Int.log 10 d.value < 400 := by
    rw [← Int.lt_zpow_iff_log_lt (by decide) hpos, h]
    exact (Binary64.magnitude_strictMono hr').trans_le magnitude_rankLimit_le
  have htop := log_value hd
  have hq : Binary64.ofQuotient negative (d.digits * 10 ^ d.power.toNat) (10 ^ (-d.power).toNat) =
      Binary64.ofRank negative r :=
    Binary64.ofQuotient_magnitude negative (by positivity) (by rw [← value_eq_div, h])
  -- Neither of the shortcuts for powers far out of range is taken.
  rw [Binary64.ofDecimal, htop, if_neg, if_neg, hq]
  · omega
  · simp [hd]
    omega

lemma value_strip (fuel : ℕ) (d : Decimal) : (strip fuel d).value = d.value := by
  induction fuel generalizing d with
  | zero => rfl
  | succ fuel ih =>
    rw [strip]
    split
    · rename_i hc
      have hmod : d.digits % 10 = 0 := by simp_all
      have hdiv : (d.digits : ℚ) = (d.digits / 10 : ℕ) * 10 := by
        exact_mod_cast (Nat.div_mul_cancel (Nat.dvd_of_mod_eq_zero hmod)).symm
      rw [ih, value, value, hdiv, zpow_add_one₀ (by decide)]
      ring
    · rfl

/-- The sign is carried over to what is read. -/
lemma withSign_ofDecimal (negative : Bool) (digits : ℕ) (power : ℤ) :
    (Binary64.ofDecimal false digits power).withSign negative =
      Binary64.ofDecimal negative digits power := by
  have hrank (r : ℕ) : (Binary64.ofRank false r).withSign negative = Binary64.ofRank negative r := by
    rw [Binary64.ofRank, Binary64.ofRank]
    split <;> rfl
  rw [Binary64.ofDecimal, Binary64.ofDecimal]
  split
  · exact hrank 0
  · split
    · rfl
    · rw [Binary64.ofQuotient, Binary64.ofQuotient]
      split <;> exact hrank _

/-- A decimal reads as a magnitude if it is read as it with either sign. -/
lemma readsAs_iff {r : ℕ} (hr : r < rankLimit) : d.readsAs r = true ↔
    ∀ negative, Binary64.ofDecimal negative d.digits d.power = Binary64.ofRank negative r := by
  rw [readsAs]
  constructor
  · intro h negative
    split at h
    · rename_i heq
      obtain rfl := by simpa using h
      rw [← withSign_ofDecimal, heq, Binary64.ofRank, dif_pos hr]
      rfl
    · cases h
  · intro h
    rw [h false, Binary64.ofRank, dif_pos hr]
    exact beq_self_eq_true r

lemma readsAs_congr {r : ℕ} (hr : r < rankLimit) (h : d.value = d'.value) :
    d.readsAs r = d'.readsAs r := by
  rw [Bool.eq_iff_iff, readsAs_iff hr, readsAs_iff hr]
  exact forall_congr' fun negative => by rw [ofDecimal_congr negative h]

/-- A decimal that is found on a grid reads as the magnitude. -/
lemma onGrid?_readsAs {tie : Tie} {r num den : ℕ} {power : ℤ}
    (h : onGrid? tie r num den power = some d) : d.readsAs r = true := by
  rw [onGrid?] at h
  dsimp only at h
  split at h
  · rename_i hlow _
    cases h
    exact hlow
  · rename_i hhigh
    cases h
    exact hhigh
  · cases h
  · rename_i hlow hhigh
    cases h
    split
    · exact hlow
    · exact hhigh
    · split
      · exact hhigh
      · exact hlow

/-- The exact value of a magnitude is a decimal. -/
lemma value_exact (r : ℕ) : value ⟨Binary64.significand r * 2 ^ (Binary64.exponent r).toNat *
    5 ^ (-Binary64.exponent r).toNat, min (Binary64.exponent r) 0⟩ = Binary64.magnitude r := by
  rw [value, Binary64.magnitude]
  rcases le_total 0 (Binary64.exponent r) with h | h
  · obtain ⟨n, hn⟩ := Int.eq_ofNat_of_zero_le h
    rw [hn]
    simp
  · obtain ⟨n, hn⟩ := Int.exists_eq_neg_ofNat h
    have hten : (10 : ℚ) ^ n = 2 ^ n * 5 ^ n := by rw [← mul_pow]; norm_num
    rw [hn]
    simp [hten]
    field_simp

/-- The shortest decimal of a magnitude reads as it. -/
lemma shortest_readsAs (tie : Tie) {r : ℕ} (hr : r < rankLimit) :
    (shortest tie r).readsAs r = true := by
  rw [shortest]
  split
  · rename_i hzero
    rw [hzero]
    rfl
  · rename_i hpos
    dsimp only
    split
    · rename_i found hfound
      obtain ⟨n, -, hgrid⟩ := List.exists_of_findSome?_eq_some hfound
      rw [readsAs_congr hr (value_strip 17 found)]
      exact onGrid?_readsAs hgrid
    · rw [readsAs_iff hr]
      exact fun negative => ofDecimal_magnitude negative (Nat.pos_of_ne_zero hpos) hr (value_exact r)

end Decimal

/-- Digits are read as they stand. -/
lemma readDecimal?_digits {ds : List Char} (hd : ∀ c ∈ ds, isDigit c = true) (hne : ds ≠ []) :
    ∃ c cs, ds = c :: cs ∧ isDigit c = true ∧ readDecimal? (c :: cs) = some ⟨ds, 0, 0⟩ := by
  obtain ⟨c, cs, rfl⟩ := List.exists_cons_of_ne_nil hne
  refine ⟨c, cs, rfl, hd c List.mem_cons_self, ?_⟩
  rw [readDecimal?, span_of_digits hd]
  simp [readPower?]

/-- Digits with a point among them are read as the digits, of which those behind the point are
counted. -/
lemma readDecimal?_point {ds : List Char} {n : ℕ} (hd : ∀ c ∈ ds, isDigit c = true)
    (hn : n < ds.length) :
    ∃ c cs, ds.take (ds.length - n) ++ '.' :: ds.drop (ds.length - n) = c :: cs ∧
      isDigit c = true ∧ readDecimal? (c :: cs) = some ⟨ds, n, 0⟩ := by
  have hne : ds.take (ds.length - n) ≠ [] := by
    intro hnil
    have hlen := congrArg List.length hnil
    rw [List.length_take, List.length_nil] at hlen
    omega
  obtain ⟨c, cs, hcs⟩ := List.exists_cons_of_ne_nil hne
  have hwhole : ∀ c ∈ ds.take (ds.length - n), isDigit c = true :=
    fun c hc => hd c (List.mem_of_mem_take hc)
  have hfraction : ∀ c ∈ ds.drop (ds.length - n), isDigit c = true :=
    fun c hc => hd c (List.mem_of_mem_drop hc)
  have hspan : (ds.take (ds.length - n) ++ '.' :: ds.drop (ds.length - n)).span isDigit =
      (ds.take (ds.length - n), '.' :: ds.drop (ds.length - n)) :=
    span_digits hwhole (by rintro c ⟨⟩; rfl)
  have hplaces : ds.length - (ds.length - n) = n := by omega
  refine ⟨c, cs ++ '.' :: ds.drop (ds.length - n), by rw [hcs]; rfl,
    hwhole c (hcs ▸ List.mem_cons_self), ?_⟩
  rw [← List.cons_append, ← hcs]
  simp only [readDecimal?, hspan, span_of_digits hfraction]
  simp [hne, hplaces, readPower?]

/-- A text that begins with a digit is no word. -/
lemma isWord_of_isDigit (word : String) {c : Char} (hc : isDigit c = true) (cs : List Char)
    {d : Char} {ds : List Char} (hw : word.toList = d :: ds) (hd : isDigit d = false) :
    isWord word (c :: cs) = false := by
  have hlower : c.toLower = c := by
    obtain ⟨hl, hu⟩ := isDigit_iff.mp hc
    refine dif_neg fun h => ?_
    have hA : 65 ≤ c.toNat := UInt32.le_iff_toNat_le.mp h.1
    omega
  rw [isWord, List.map_cons, hlower, hw]
  have hne : c ≠ d := by
    rintro rfl
    rw [hc] at hd
    cases hd
  simp [hne]

namespace Decimal

/-- The text of a decimal begins with a digit, and what it is read as has the same value. -/
lemma readDecimal?_positional (d : Decimal) : ∃ c cs w, d.positional = c :: cs ∧
    isDigit c = true ∧ readDecimal? (c :: cs) = some w ∧
      value ⟨digitsValue 0 w.digits, w.power - w.places⟩ = d.value := by
  have hdigits : ∀ c ∈ natDigits d.digits, isDigit c = true := fun c hc => isDigit_of_mem_natDigits hc
  have hzeros (n : ℕ) : ∀ c ∈ List.replicate n '0', isDigit c = true :=
    fun c hc => isDigit_of_mem_replicate hc
  rw [positional]
  split
  · rename_i hpower
    obtain ⟨n, hn⟩ := Int.eq_ofNat_of_zero_le hpower
    obtain ⟨c, cs, hcs, hc, hread⟩ := readDecimal?_digits
      (List.forall_mem_append.mpr ⟨hdigits, hzeros d.power.toNat⟩)
      (List.append_ne_nil_of_left_ne_nil (natDigits_ne_nil _) _)
    refine ⟨c, cs, _, hcs, hc, hread, ?_⟩
    rw [digitsValue_append, digitsValue_natDigits, digitsValue_zeros, value, value, hn]
    simp
  · rename_i hpower
    obtain ⟨n, hn⟩ : ∃ n : ℕ, d.power = -(n : ℤ) := ⟨(-d.power).toNat, by omega⟩
    rw [hn, neg_neg, Int.toNat_natCast]
    dsimp only
    -- As many zeros stand in front that a digit is left for the place before the point.
    generalize hds : List.replicate (n + 1 - (natDigits d.digits).length) '0' ++
      natDigits d.digits = ds
    have hd : ∀ c ∈ ds, isDigit c = true := hds ▸ List.forall_mem_append.mpr ⟨hzeros _, hdigits⟩
    have hvalue : digitsValue 0 ds = d.digits := by
      rw [← hds]
      exact digitsValue_zeros_natDigits _ d.digits
    have hlen : n < ds.length := by
      rw [← hds, List.length_append, List.length_replicate]
      omega
    obtain ⟨c, cs, hcs, hc, hread⟩ := readDecimal?_point hd hlen
    refine ⟨c, cs, _, hcs, hc, hread, ?_⟩
    rw [hvalue, value, value, hn]
    simp

/-- No blank stands in the text of a decimal. -/
lemma isBlank_of_mem_positional {d : Decimal} {c : Char} (h : c ∈ d.positional) :
    Text.isBlank c = false := by
  rw [positional] at h
  split at h
  · rcases List.mem_append.mp h with h | h
    · exact isBlank_of_isDigit (isDigit_of_mem_natDigits h)
    · exact isBlank_of_isDigit (isDigit_of_mem_replicate h)
  · rcases List.mem_append.mp h with h | h
    · exact isBlank_of_isDigit (isDigit_of_mem_zeros (List.mem_of_mem_take h))
    · rcases List.mem_cons.mp h with rfl | h
      · decide
      · exact isBlank_of_isDigit (isDigit_of_mem_zeros (List.mem_of_mem_drop h))

end Decimal

namespace Binary64

/-- No blank stands in the text of a finite number. -/
lemma isBlank_of_mem_plain {x : Binary64} {c : Char} (hx : x.isFinite = true) (h : c ∈ x.plain) :
    Text.isBlank c = false := by
  cases x with
  | nan => cases hx
  | infinite negative => cases hx
  | finite negative rank hrank =>
    rcases List.mem_append.mp h with h | h
    · cases negative with
      | false => cases h
      | true =>
        rw [List.mem_singleton.mp h]
        decide
    · exact Decimal.isBlank_of_mem_positional h

/-- What is written for a finite number is read as it. -/
lemma readBinary64?_plain {x : Binary64} (h : x.isFinite = true) : readBinary64? x.plain = some x := by
  cases x with
  | nan => cases h
  | infinite negative => cases h
  | finite negative r hr =>
    obtain ⟨c, cs, w, htext, hc, hread, hvalue⟩ := (Decimal.shortest .up r).readDecimal?_positional
    have hx : readMagnitude? negative (Decimal.shortest .up r).positional =
        some (finite negative r hr) := by
      have hshort := (Decimal.readsAs_iff hr).mp (Decimal.shortest_readsAs .up hr) negative
      rw [← Decimal.ofDecimal_congr negative hvalue, ofRank, dif_pos hr] at hshort
      rw [htext, readMagnitude?, hread, Option.map_some, hshort,
        isWord_of_isDigit "nan" hc cs rfl rfl,
        isWord_of_isDigit "inf" hc cs rfl rfl,
        isWord_of_isDigit "infinity" hc cs rfl rfl]
      rfl
    cases negative with
    | true => exact hx
    | false =>
      have hplain : (finite false r hr).plain = c :: cs := htext
      rw [htext] at hx
      rw [hplain]
      -- A digit is no sign.
      unfold readBinary64?
      split
      · rename_i heq
        cases heq
        cases hc
      · rename_i heq
        cases heq
        cases hc
      · exact hx

/-- The plain texts of finite numbers tell them apart. -/
lemma plain_inj {x y : Binary64} (hx : x.isFinite = true) (hy : y.isFinite = true)
    (h : x.plain = y.plain) : x = y := by
  have hread := readBinary64?_plain hx
  rw [h, readBinary64?_plain hy] at hread
  exact (Option.some.inj hread).symm

end Binary64

end RowQuery.Numeric
