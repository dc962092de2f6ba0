import RowQuery.Calendar.Reader
import RowQuery.Proofs.Calendar.Order
import RowQuery.Proofs.Numeric.Digits

/-!
Days and moments that are written are read back. A field of fixed width is read to its end whatever
stands behind it (`readPair_padded`), and a year to the hyphen behind it, so a day is read off the
front of a text (`readDate_write`) and a moment from its whole text (`readMoment_write`). Hence their
texts tell days apart, and moments.
-/

namespace RowQuery.Calendar

open Numeric (padded isDigit digitsValue)

variable {ds rest : List Char} {n : Nat}

/-- Digits are taken off a text up to the limit, or up to a character that is none. -/
lemma spanDigits_append {limit : Nat} (hd : ∀ c ∈ ds, isDigit c = true)
    (hl : ds.length = limit ∨ ds.length ≤ limit ∧ ∀ c ∈ rest.head?, isDigit c = false) :
    spanDigits limit (ds ++ rest) = (ds, rest) := by
  induction ds generalizing limit with
  | nil =>
    cases rest with
    | nil => cases limit <;> rfl
    | cons c cs =>
      cases limit with
      | zero => rfl
      | succ limit =>
        obtain hl | ⟨-, hstop⟩ := hl
        · cases hl
        · have hc : isDigit c = false := hstop c rfl
          simp [spanDigits, hc]
  | cons d ds ih =>
    cases limit with
    | zero => simp at hl
    | succ limit =>
      have hrest : spanDigits limit (ds ++ rest) = (ds, rest) :=
        ih (fun c hc => hd c (by simp [hc])) (by simpa using hl)
      simp [spanDigits, hd d (by simp), hrest]

lemma readUpTo_append {limit : Nat} (hd : ∀ c ∈ ds, isDigit c = true) (hne : ds ≠ [])
    (hl : ds.length = limit ∨ ds.length ≤ limit ∧ ∀ c ∈ rest.head?, isDigit c = false) :
    readUpTo limit (ds ++ rest) = some (digitsValue 0 ds, rest) := by
  rw [readUpTo, spanDigits_append hd hl]
  simp [hne]

/-- No blank stands before a padded number. -/
lemma trimLeft_padded (size n : Nat) (rest : List Char) :
    Text.trimLeft (padded size n ++ rest) = padded size n ++ rest := by
  obtain ⟨c, cs, hcs⟩ := List.exists_cons_of_ne_nil (Numeric.padded_ne_nil size n)
  have hc : isDigit c = true := Numeric.isDigit_of_mem_padded (hcs ▸ List.mem_cons_self)
  rw [hcs, List.cons_append, Text.trimLeft]
  exact List.dropWhile_cons_of_neg (by simp [Numeric.isBlank_of_isDigit hc])

/-- A number of two digits is read whatever stands behind it. -/
lemma readPair_padded (h : n < 100) (rest : List Char) :
    readPair (padded 2 n ++ rest) = some (n, rest) := by
  rw [readPair, trimLeft_padded,
    readUpTo_append (fun c hc => Numeric.isDigit_of_mem_padded hc) (Numeric.padded_ne_nil 2 n)
      (.inl (Numeric.length_padded (by decide) h)),
    Numeric.digitsValue_padded]

@[simp]
lemma readChar_cons (c : Char) (cs : List Char) : readChar c (c :: cs) = some ((), cs) := if_pos rfl

/-- A year is read up to the hyphen behind it. -/
lemma readYear_writeYear (year : Int) (rest : List Char) :
    readYear (Date.writeYear year ++ '-' :: rest) = some (year, '-' :: rest) := by
  have hread {limit : Nat} (hl : (padded 4 year.natAbs).length = limit ∨
      (padded 4 year.natAbs).length ≤ limit ∧ ∀ c ∈ ('-' :: rest).head?, isDigit c = false) :
      readUpTo limit (padded 4 year.natAbs ++ '-' :: rest) = some (year.natAbs, '-' :: rest) := by
    rw [readUpTo_append (fun c hc => Numeric.isDigit_of_mem_padded hc)
      (Numeric.padded_ne_nil 4 _) hl, Numeric.digitsValue_padded]
  -- Behind a sign there may be any number of digits.
  have hsigned : readUpTo (padded 4 year.natAbs ++ '-' :: rest).length
      (padded 4 year.natAbs ++ '-' :: rest) = some (year.natAbs, '-' :: rest) :=
    hread (.inr ⟨by simp, by rintro c ⟨⟩; rfl⟩)
  unfold Date.writeYear
  dsimp only
  split_ifs with hneg hbig
  · have hblank : Text.isBlank '-' = false := by decide
    simp only [readYear, Text.trimLeft, List.cons_append, List.dropWhile_cons, hblank,
      Bool.false_eq_true, if_false, hsigned, Option.map_some]
    congr 2
    omega
  · have hblank : Text.isBlank '+' = false := by decide
    simp only [readYear, Text.trimLeft, List.cons_append, List.dropWhile_cons, hblank,
      Bool.false_eq_true, if_false, hsigned, Option.map_some]
    congr 2
    omega
  · have hlen : (padded 4 year.natAbs).length = 4 := Numeric.length_padded (by decide) (by omega)
    have hplain := hread (.inl hlen)
    obtain ⟨c, cs, hcs⟩ := List.exists_cons_of_ne_nil (Numeric.padded_ne_nil 4 year.natAbs)
    have hc : isDigit c = true := Numeric.isDigit_of_mem_padded (hcs ▸ List.mem_cons_self)
    rw [readYear, trimLeft_padded]
    split
    · rename_i heq
      rw [hcs] at heq
      cases heq
      cases hc
    · rename_i heq
      rw [hcs] at heq
      cases heq
      cases hc
    · have hyear : (year.natAbs : Int) = year := by omega
      rw [hplain, Option.map_some]
      exact congrArg (fun n => some (n, '-' :: rest)) hyear

/-- What is written for a day is read as it, whatever stands behind it. -/
lemma readDate_write (d : Date) (rest : List Char) : readDate (d.write ++ rest) = some (d, rest) := by
  have hb := d.bounds
  have hday := d.day_le
  have hof : Date.ofNumbers? d.year d.month d.day = some d := dif_pos d.valid
  have hmonth : d.month < 100 := by omega
  have hday' : d.day < 100 := by omega
  simp [readDate, Date.write, readYear_writeYear, readPair_padded hmonth, readPair_padded hday', hof]

/-- The texts of days tell them apart. -/
lemma Date.write_inj {a b : Date} (h : a.write = b.write) : a = b := by
  have ha := readDate_write a []
  rw [h, readDate_write b []] at ha
  cases ha
  rfl

lemma readNanos_padded {size : Nat} (hs : 0 < size) (hs' : size ≤ 9) (h : n < 10 ^ size) :
    readNanos (padded size n) = some (n * 10 ^ (9 - size), []) := by
  have hspan : (padded size n).span isDigit = (padded size n, []) :=
    Numeric.span_of_digits fun c hc => Numeric.isDigit_of_mem_padded hc
  have hlen := Numeric.length_padded hs h
  have hkept : (padded size n).take 9 = padded size n := List.take_of_length_le (by omega)
  rw [readNanos, hspan]
  simp [hkept, hlen, Numeric.padded_ne_nil, Numeric.digitsValue_padded]

/-- A fraction is read as the nanoseconds that it is written for. -/
lemma readFraction_writeFraction (h : n < 1000000000) :
    readFraction (Timestamp.writeFraction n) = some (n, []) := by
  rw [Timestamp.writeFraction]
  split_ifs with hzero hmilli hmicro
  · rw [hzero]
    rfl
  · rw [readFraction, readNanos_padded (by decide) (by decide) (by omega)]
    congr 2
    omega
  · rw [readFraction, readNanos_padded (by decide) (by decide) (by omega)]
    congr 2
    omega
  · rw [readFraction, readNanos_padded (by decide) (by decide) (by omega)]
    simp

/-- A moment is that of its hour, minute and second, a leap second being second 60. -/
lemma ofClock?_self (t : Timestamp) :
    Timestamp.ofClock? t.date (t.second / 3600) (t.second / 60 % 60)
      (t.second % 60 + if nanosPerSecond ≤ t.nano then 1 else 0) (t.nano % nanosPerSecond) =
      some t := by
  have hb := t.bounds
  have hof : Timestamp.ofNumbers? t.date t.second t.nano = some t := dif_pos t.valid
  have hhour : t.second / 3600 < 24 := by omega
  have hminute : t.second / 60 % 60 < 60 := by omega
  rw [Timestamp.ofClock?, nanosPerSecond]
  by_cases hleap : 1000000000 ≤ t.nano
  · have hlast : t.second % 60 + 1 = 60 := by omega
    have hsecond : t.second / 3600 * 3600 + t.second / 60 % 60 * 60 + 59 = t.second := by omega
    have hnano : 1000000000 + t.nano % 1000000000 = t.nano := by omega
    have hrest : t.nano % 1000000000 < 1000000000 := by omega
    simp [hleap, hhour, hminute, hlast, hrest, hnano, hsecond, hof]
  · have hnot : t.second % 60 ≠ 60 := by omega
    have hsecond : t.second / 3600 * 3600 + t.second / 60 % 60 * 60 + t.second % 60 = t.second := by
      omega
    have hnano : t.nano % 1000000000 = t.nano := by omega
    have hrest : t.nano < 1000000000 := by omega
    have hrange : t.second % 60 ≤ 60 := by omega
    simp [hleap, hhour, hminute, hnot, hrange, hnano, hrest, hsecond, hof]

/-- What is written for a moment is read as it. -/
lemma readMoment_write (t : Timestamp) : readMoment false true t.write = some (t, []) := by
  have hb := t.bounds
  have hhour : t.second / 3600 < 100 := by omega
  have hminute : t.second / 60 % 60 < 100 := by omega
  have hsecond : (t.second % 60 + if nanosPerSecond ≤ t.nano then 1 else 0) < 100 := by
    split_ifs <;> omega
  have hnano : t.nano % nanosPerSecond < 1000000000 := Nat.mod_lt _ (by decide)
  simp [readMoment, Timestamp.write, readDate_write, readJoint, readPair_padded hhour,
    readPair_padded hminute, readPair_padded hsecond, readFraction_writeFraction hnano,
    ofClock?_self]

/-- The texts of moments tell them apart. -/
lemma Timestamp.write_inj {a b : Timestamp} (h : a.write = b.write) : a = b := by
  have ha := readMoment_write a
  rw [h, readMoment_write b] at ha
  cases ha
  rfl

end RowQuery.Calendar
