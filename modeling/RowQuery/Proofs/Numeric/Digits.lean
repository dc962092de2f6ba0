import Mathlib.Algebra.Group.Nat.Defs
import Mathlib.Data.List.Basic
import Mathlib.Data.List.TakeDrop
import RowQuery.Numeric.Integer
import RowQuery.Proofs.Text.Trim

/-!
Numerals. A run of digits spells one number, leading zeros do not count, and what is written for a
number is read back as it. The texts that are read as an integer are its digits behind a sign and zeros,
with blanks around them: `Spells` and `readInt64?_trim_iff`.
-/

namespace RowQuery.Numeric

lemma isDigit_iff {c : Char} : isDigit c = true ↔ 48 ≤ c.toNat ∧ c.toNat ≤ 57 := by
  rw [isDigit, Bool.and_eq_true, decide_eq_true_eq, decide_eq_true_eq, Char.le_def, Char.le_def,
    UInt32.le_iff_toNat_le, UInt32.le_iff_toNat_le]
  rfl

/-- A digit is no blank. -/
lemma isBlank_of_isDigit {c : Char} (h : isDigit c = true) : Text.isBlank c = false := by
  obtain ⟨hl, hu⟩ := isDigit_iff.mp h
  have h₁ : 9 ≤ c.toNat := by omega
  have h₂ : 14 ≤ c.toNat := by omega
  have h₃ : 32 ≤ c.toNat := by omega
  have h₄ : 33 ≤ c.toNat := by omega
  have h₅ : ¬ 133 ≤ c.toNat := by omega
  simp [Text.isBlank, Text.blanks, Text.CodeSet.contains, Text.CodeSet.insideEdges, h₁, h₂, h₃, h₄,
    h₅]

/-- Digits are taken off a text up to a character that is none. -/
lemma span_digits {ds rest : List Char} (hd : ∀ c ∈ ds, isDigit c = true)
    (hr : ∀ c ∈ rest.head?, isDigit c = false) : (ds ++ rest).span isDigit = (ds, rest) := by
  rw [List.span_eq_takeWhile_dropWhile, List.takeWhile_append_of_pos hd,
    List.dropWhile_append_of_pos hd]
  cases rest with
  | nil => simp
  | cons c cs => simp [hr c rfl]

lemma span_of_digits {ds : List Char} (hd : ∀ c ∈ ds, isDigit c = true) :
    ds.span isDigit = (ds, []) := by
  have h : (ds ++ []).span isDigit = (ds, []) := span_digits hd nofun
  rwa [List.append_nil] at h

lemma digitsValue_eq (high : Nat) (ds : List Char) :
    digitsValue high ds = Nat.ofDigitChars 10 ds high := Nat.ofDigitChars_eq_foldl.symm

/-- What stands before digits counts for as many powers of ten. -/
lemma digitsValue_append (high : Nat) (xs ys : List Char) :
    digitsValue high (xs ++ ys) = digitsValue high xs * 10 ^ ys.length + digitsValue 0 ys := by
  simp only [digitsValue_eq, Nat.ofDigitChars_append]
  rw [Nat.ofDigitChars_eq_ofDigitChars_zero, Nat.mul_comm]

/-- Leading zeros do not count. -/
lemma digitsValue_zeros (n : Nat) : digitsValue 0 (List.replicate n '0') = 0 := by
  rw [digitsValue_eq, Nat.ofDigitChars_replicate_zero, Nat.mul_zero]

lemma digitsValue_natDigits (n : Nat) : digitsValue 0 (natDigits n) = n := by
  rw [digitsValue_eq, natDigits, Nat.ofDigitChars_ten_toDigits]

lemma natDigits_ne_nil (n : Nat) : natDigits n ≠ [] := Nat.toDigits_ne_nil

lemma isDigit_of_mem_natDigits {n : Nat} {c : Char} (h : c ∈ natDigits n) : isDigit c = true :=
  Nat.isDigit_of_mem_toDigits (by decide) (by decide) h

lemma readDigits?_eq_some_iff {ds : List Char} {n : Nat} :
    readDigits? ds = some n ↔ ds ≠ [] ∧ (∀ c ∈ ds, isDigit c = true) ∧ digitsValue 0 ds = n := by
  simp [readDigits?, and_assoc]

/-- Zeros before a number do not change what it spells. -/
lemma digitsValue_zeros_natDigits (zeros n : Nat) :
    digitsValue 0 (List.replicate zeros '0' ++ natDigits n) = n := by
  rw [digitsValue_append, digitsValue_zeros, digitsValue_natDigits, Nat.zero_mul, Nat.zero_add]

lemma isDigit_of_mem_replicate {zeros : Nat} {c : Char} (h : c ∈ List.replicate zeros '0') :
    isDigit c = true := by
  rw [(List.mem_replicate.mp h).2]
  rfl

lemma isDigit_of_mem_zeros {zeros n : Nat} {c : Char}
    (h : c ∈ List.replicate zeros '0' ++ natDigits n) : isDigit c = true :=
  (List.mem_append.mp h).elim isDigit_of_mem_replicate isDigit_of_mem_natDigits

/-- What is written for a number is read as it, be it behind zeros. -/
lemma readDigits?_zeros (zeros n : Nat) :
    readDigits? (List.replicate zeros '0' ++ natDigits n) = some n := by
  refine readDigits?_eq_some_iff.mpr ⟨?_, fun c hc => isDigit_of_mem_zeros hc, ?_⟩
  · exact List.append_ne_nil_of_right_ne_nil _ (natDigits_ne_nil n)
  · exact digitsValue_zeros_natDigits zeros n

lemma readDigits?_natDigits (n : Nat) : readDigits? (natDigits n) = some n := readDigits?_zeros 0 n

lemma digitValue_lt {c : Char} (h : isDigit c = true) : digitValue c < 10 := by
  obtain ⟨hl, hu⟩ := isDigit_iff.mp h
  show c.toNat - 48 < 10
  omega

lemma natDigits_digitValue {c : Char} (h : isDigit c = true) : natDigits (digitValue c) = [c] := by
  have hl := (isDigit_iff.mp h).1
  rw [natDigits, Nat.toDigits_of_lt_base (digitValue_lt h), List.cons.injEq]
  refine ⟨Char.toNat_inj.mp ?_, rfl⟩
  rw [Nat.toNat_digitChar_of_lt_ten (digitValue_lt h)]
  show 48 + (c.toNat - 48) = c.toNat
  omega

/-- Digits behind a number that is not zero are written after it. -/
lemma natDigits_digitsValue {high : Nat} {ds : List Char} (h : 0 < high)
    (hd : ∀ c ∈ ds, isDigit c = true) : natDigits (digitsValue high ds) = natDigits high ++ ds := by
  induction ds generalizing high with
  | nil => exact (List.append_nil _).symm
  | cons c cs ih =>
    have hc := hd c List.mem_cons_self
    have hstep : natDigits high ++ [c] = natDigits (10 * high + digitValue c) := by
      rw [← natDigits_digitValue hc]
      exact Nat.toDigits_append_toDigits (by decide) h (digitValue_lt hc)
    calc natDigits (digitsValue (10 * high + digitValue c) cs)
      _ = natDigits (10 * high + digitValue c) ++ cs :=
          ih (by omega) fun d hmem => hd d (List.mem_cons_of_mem c hmem)
      _ = natDigits high ++ c :: cs := by rw [← hstep, List.append_assoc, List.singleton_append]

/-- Digits are what is written for the number that they spell, behind zeros. -/
lemma exists_zeros_natDigits {ds : List Char} (hne : ds ≠ []) (hd : ∀ c ∈ ds, isDigit c = true) :
    ∃ zeros, ds = List.replicate zeros '0' ++ natDigits (digitsValue 0 ds) := by
  induction ds with
  | nil => exact absurd rfl hne
  | cons c cs ih =>
    have hcs : ∀ d ∈ cs, isDigit d = true := fun d hmem => hd d (List.mem_cons_of_mem c hmem)
    by_cases hc : c = '0'
    · subst hc
      by_cases hnil : cs = []
      · exact ⟨0, by rw [hnil]; rfl⟩
      · obtain ⟨zeros, hzeros⟩ := ih hnil hcs
        exact ⟨zeros + 1, congrArg ('0' :: ·) hzeros⟩
    · -- The first digit is above zero, so all of them are written.
      have hdigit := hd c List.mem_cons_self
      have hpos : 0 < digitValue c := by
        have hl := (isDigit_iff.mp hdigit).1
        have hne : c.toNat ≠ 48 := fun heq => hc (Char.toNat_inj.mp heq)
        show 0 < c.toNat - 48
        omega
      refine ⟨0, ?_⟩
      have hwritten := natDigits_digitsValue hpos hcs
      rw [natDigits_digitValue hdigit] at hwritten
      show c :: cs = natDigits (digitsValue (10 * 0 + digitValue c) cs)
      rw [Nat.mul_zero, Nat.zero_add, hwritten]
      rfl

/-- A run of digits is read as a number exactly if it is its digits behind zeros. -/
lemma readDigits?_iff {ds : List Char} {n : Nat} :
    readDigits? ds = some n ↔ ∃ zeros : Nat, ds = List.replicate zeros '0' ++ natDigits n := by
  constructor
  · intro h
    obtain ⟨hne, hall, rfl⟩ := readDigits?_eq_some_iff.mp h
    exact exists_zeros_natDigits hne hall
  · rintro ⟨zeros, rfl⟩
    exact readDigits?_zeros zeros n

/-- The texts that are read as natural numbers are those of numbers that fit 64 bits: a plus sign or none,
zeros and the digits. -/
lemma readNat64?_iff {cs : List Char} {n : Nat} : readNat64? cs = some n ↔
    n ≤ maxNat64 ∧ ∃ sign ∈ [[], ['+']], ∃ zeros : Nat,
      cs = sign ++ (List.replicate zeros '0' ++ natDigits n) := by
  constructor
  · intro h
    unfold readNat64? at h
    obtain ⟨hread, hle⟩ := Option.filter_eq_some_iff.mp h
    refine ⟨by simpa using hle, ?_⟩
    split at hread
    · obtain ⟨zeros, rfl⟩ := readDigits?_iff.mp hread
      exact ⟨['+'], by simp, zeros, rfl⟩
    · exact ⟨[], by simp, readDigits?_iff.mp hread⟩
  · rintro ⟨hle, sign, hsign, zeros, rfl⟩
    rcases List.mem_pair.mp hsign with rfl | rfl
    · rw [List.nil_append, readNat64?, readDigits?_zeros, Option.filter_some_pos (by simpa using hle)]
      -- The digits do not begin with a plus sign.
      intro ds hds
      have hplus : '+' ∈ List.replicate zeros '0' ++ natDigits n := hds ▸ List.mem_cons_self
      exact absurd (isDigit_of_mem_zeros hplus) (by decide)
    · rw [List.singleton_append, readNat64?, readDigits?_zeros,
        Option.filter_some_pos (by simpa using hle)]

/-- A digit is no sign, so a numeral that begins with one is read as it stands. -/
lemma readSigned?_of_digits {ds : List Char} (h : ∀ c ∈ ds, isDigit c = true) :
    readSigned? ds = (readDigits? ds).map fun n => (n : Int) := by
  cases ds with
  | nil => rfl
  | cons c cs =>
    have hc := h c (by simp)
    have hminus : c ≠ '-' := by rintro rfl; exact absurd hc (by decide)
    have hplus : c ≠ '+' := by rintro rfl; exact absurd hc (by decide)
    unfold readSigned?
    split <;> simp_all

/-- What is written for an integer is read as it. -/
lemma readSigned?_intDigits (n : Int) : readSigned? (intDigits n) = some n := by
  cases n with
  | ofNat n =>
    rw [intDigits, readSigned?_of_digits fun c hc => isDigit_of_mem_natDigits hc,
      readDigits?_natDigits]
    rfl
  | negSucc n =>
    rw [intDigits, readSigned?, readDigits?_natDigits]
    rfl

/-- The texts of integers tell them apart. -/
lemma intDigits_inj {m n : Int} (h : intDigits m = intDigits n) : m = n := by
  have hm := readSigned?_intDigits m
  rw [h, readSigned?_intDigits n] at hm
  exact (Option.some.inj hm).symm

lemma padded_ne_nil (size n : Nat) : padded size n ≠ [] :=
  List.append_ne_nil_of_right_ne_nil _ (natDigits_ne_nil n)

lemma digitsValue_padded (size n : Nat) : digitsValue 0 (padded size n) = n :=
  digitsValue_zeros_natDigits _ n

lemma isDigit_of_mem_padded {size n : Nat} {c : Char} (h : c ∈ padded size n) : isDigit c = true :=
  isDigit_of_mem_zeros h

/-- Padding gives exactly the size to a number that is not longer. -/
lemma length_padded {size n : Nat} (hs : 0 < size) (h : n < 10 ^ size) :
    (padded size n).length = size := by
  have hlen : (natDigits n).length ≤ size := (Nat.length_toDigits_le_iff (by decide) hs).mpr h
  rw [padded, List.length_append, List.length_replicate]
  omega

/-- The signs that an integer may be written with; zero may have either. -/
def signs (n : Int) : List (List Char) :=
  (if n ≤ 0 then [['-']] else []) ++ if 0 ≤ n then [[], ['+']] else []

/-- Whether a text is an integer in decimal: a sign, zeros and its digits, with blanks around. -/
def Spells (n : Int) (cs : List Char) : Prop :=
  ∃ before sign after, ∃ zeros : Nat,
    (∀ c ∈ before, Text.isBlank c = true) ∧ (∀ c ∈ after, Text.isBlank c = true) ∧
      sign ∈ signs n ∧
      cs = before ++ (sign ++ (List.replicate zeros '0' ++ natDigits n.natAbs)) ++ after

variable {n : Int} {sign cs : List Char}

lemma isBlank_of_mem_sign (h : sign ∈ signs n) {c : Char} (hc : c ∈ sign) :
    Text.isBlank c = false := by
  have hsign : sign = ['-'] ∨ sign = [] ∨ sign = ['+'] := by
    simp only [signs, List.mem_append] at h
    rcases h with h | h <;> split at h <;> simp_all
  rcases hsign with rfl | rfl | rfl
  · rw [List.mem_singleton.mp hc]
    decide
  · cases hc
  · rw [List.mem_singleton.mp hc]
    decide

/-- A numeral is read as an integer exactly if it is a sign of the integer, zeros and its digits. -/
lemma readSigned?_iff : readSigned? cs = some n ↔
    ∃ sign ∈ signs n, ∃ zeros : Nat,
      cs = sign ++ (List.replicate zeros '0' ++ natDigits n.natAbs) := by
  constructor
  · -- The digits of what is read are known behind each of the three signs.
    have digits {ds : List Char} {k : Int}
        (h : ((readDigits? ds).bind fun m => some (m : Int)) = some k) :
        0 ≤ k ∧ ∃ zeros : Nat, ds = List.replicate zeros '0' ++ natDigits k.natAbs := by
      obtain ⟨m, hm, hk⟩ := Option.bind_eq_some_iff.mp h
      obtain rfl := Option.some.inj hk
      exact ⟨Int.natCast_nonneg _, readDigits?_iff.mp hm⟩
    intro h
    unfold readSigned? at h
    split at h
    · obtain ⟨k, hk, rfl⟩ := Option.map_eq_some_iff.mp h
      obtain ⟨hnonneg, zeros, rfl⟩ := digits hk
      refine ⟨['-'], by simp [signs, hnonneg], zeros, ?_⟩
      rw [Int.natAbs_neg]
      rfl
    · obtain ⟨k, hk, rfl⟩ := Option.map_eq_some_iff.mp h
      obtain ⟨hnonneg, zeros, rfl⟩ := digits hk
      exact ⟨['+'], by simp [signs, hnonneg], zeros, rfl⟩
    · obtain ⟨k, hk, rfl⟩ := Option.map_eq_some_iff.mp h
      obtain ⟨hnonneg, zeros, rfl⟩ := digits hk
      exact ⟨[], by simp [signs, hnonneg], zeros, rfl⟩
  · rintro ⟨sign, hsign, zeros, rfl⟩
    rcases List.mem_append.mp hsign with hsign | hsign
    · split at hsign
      · rename_i hn
        obtain rfl := List.mem_singleton.mp hsign
        rw [List.singleton_append, readSigned?, readDigits?_zeros]
        show some (-(n.natAbs : Int)) = some n
        rw [Option.some.injEq]
        omega
      · cases hsign
    · split at hsign
      · rename_i hn
        have habs : some (n.natAbs : Int) = some n := by
          rw [Option.some.injEq]
          omega
        rcases List.mem_pair.mp hsign with rfl | rfl
        · rw [List.nil_append, readSigned?_of_digits fun c hc => isDigit_of_mem_zeros hc,
            readDigits?_zeros]
          exact habs
        · rw [List.singleton_append, readSigned?, readDigits?_zeros]
          exact habs
      · cases hsign

/-- The texts that are read as integers, blanks around them aside, are the spellings of those that fit
64 bits. -/
lemma readInt64?_trim_iff :
    readInt64? (Text.trim cs) = some n ↔ fitsInt64 n = true ∧ Spells n cs := by
  rw [readInt64?, Option.filter_eq_some_iff, readSigned?_iff, and_comm]
  refine and_congr_right fun _ => ?_
  constructor
  · rintro ⟨sign, hsign, zeros, htrim⟩
    obtain ⟨before, after, hb, ha, hcs⟩ := Text.exists_blanks_around cs
    rw [htrim] at hcs
    exact ⟨before, sign, after, zeros, hb, ha, hsign, hcs⟩
  · rintro ⟨before, sign, after, zeros, hb, ha, hsign, rfl⟩
    refine ⟨sign, hsign, zeros, Text.trim_around hb ha fun c hc => ?_⟩
    rcases List.mem_append.mp hc with hc | hc
    · exact isBlank_of_mem_sign hsign hc
    · exact isBlank_of_isDigit (isDigit_of_mem_zeros hc)

/-- The decimal text of an integer is one of its spellings. -/
lemma spells_intDigits (n : Int) : Spells n (intDigits n) := by
  cases n with
  | ofNat n =>
    refine ⟨[], [], [], 0, nofun, nofun, by simp [signs], ?_⟩
    rw [List.append_nil]
    rfl
  | negSucc n =>
    have hneg : Int.negSucc n ≤ 0 := Int.le_of_lt (Int.negSucc_lt_zero n)
    refine ⟨[], ['-'], [], 0, nofun, nofun, by simp [signs, hneg], ?_⟩
    rw [List.append_nil]
    rfl

end RowQuery.Numeric
