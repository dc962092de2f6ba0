import RowQuery.Proofs.Calendar.Written

/-!
The texts of days and moments, read as a whole. The text of a moment has no offset, so it is none of
the internet profile, which is tried first (`readInternet_write`), and the first of the other forms
gives the moment back (`Timestamp.read?_write`). There are no blanks in these texts.
-/

namespace RowQuery.Calendar

open Numeric (padded isDigit)

variable {n : Nat} {c : Char}

/-- A number of fixed width is read whatever stands behind it. -/
lemma readExactly_padded {size : Nat} (hs : 0 < size) (h : n < 10 ^ size) (rest : List Char) :
    readExactly size (padded size n ++ rest) = some (n, rest) := by
  have hlen : (padded size n).length = size := Numeric.length_padded hs h
  have hspan : spanDigits size (padded size n ++ rest) = (padded size n, rest) :=
    spanDigits_append (fun c hc => Numeric.isDigit_of_mem_padded hc) (.inl hlen)
  rw [readExactly, hspan]
  simp [hlen, Numeric.digitsValue_padded]

/-- What is read is handed on to what is read next. -/
lemma bind_of_eq_some {α β : Type} {x : Option α} {a : α} (h : x = some a) {f : α → Option β} :
    (x >>= f) = f a := by
  rw [h]
  rfl

/-- A year with a sign is none of the internet profile. -/
lemma readExactly_writeYear {year : Int} (h : year < 0 ∨ 9999 < year) (rest : List Char) :
    readExactly 4 (Date.writeYear year ++ rest) = none := by
  rw [Date.writeYear]
  by_cases hneg : year < 0
  · rw [if_pos hneg]
    rfl
  · rw [if_neg hneg, if_pos (h.resolve_left hneg)]
    rfl

/-- The text of a moment is none of the internet profile: it has no offset. -/
lemma readInternet_write (t : Timestamp) : readInternet t.write = none := by
  have hb := t.bounds
  have hd := t.date.bounds
  have hday := t.date.day_le
  by_cases hyear : t.date.year < 0 ∨ 9999 < t.date.year
  · rw [Timestamp.write, Date.write]
    simp only [List.append_assoc, List.cons_append]
    rw [readInternet, readExactly_writeYear hyear]
    rfl
  · have hplain : Date.writeYear t.date.year = padded 4 t.date.year.natAbs := by
      rw [Date.writeYear, if_neg (by omega), if_neg (by omega)]
    have hyears : t.date.year.natAbs < 10 ^ 4 := by omega
    have hmonth : t.date.month < 10 ^ 2 := by omega
    have hdays : t.date.day < 10 ^ 2 := by omega
    have hhour : t.second / 3600 < 10 ^ 2 := by omega
    have hminute : t.second / 60 % 60 < 10 ^ 2 := by omega
    have hsecond : (t.second % 60 + if nanosPerSecond ≤ t.nano then 1 else 0) < 10 ^ 2 := by
      split_ifs <;> omega
    have hnano : t.nano % nanosPerSecond < 1000000000 := Nat.mod_lt _ (by decide)
    have hwrite : t.write = padded 4 t.date.year.natAbs ++ '-' :: (padded 2 t.date.month ++
        '-' :: (padded 2 t.date.day ++ 'T' :: (padded 2 (t.second / 3600) ++
        ':' :: (padded 2 (t.second / 60 % 60) ++
        ':' :: (padded 2 (t.second % 60 + if nanosPerSecond ≤ t.nano then 1 else 0) ++
        Timestamp.writeFraction (t.nano % nanosPerSecond)))))) := by
      simp only [Timestamp.write, Date.write, hplain, List.append_assoc, List.cons_append]
    have hjoint (rest : List Char) :
        (if 'T' = 'T' || 'T' = 't' || 'T' = ' ' then some rest else none) = some rest := if_pos rfl
    rw [hwrite]
    -- The fields are read off one after the other, and nothing is left for the offset.
    refine (bind_of_eq_some (readExactly_padded (by decide) hyears _)).trans ?_
    refine (bind_of_eq_some (readChar_cons _ _)).trans ?_
    refine (bind_of_eq_some (readExactly_padded (by decide) hmonth _)).trans ?_
    refine (bind_of_eq_some (readChar_cons _ _)).trans ?_
    refine (bind_of_eq_some (readExactly_padded (by decide) hdays _)).trans ?_
    refine (bind_of_eq_some (hjoint _)).trans ?_
    refine (bind_of_eq_some (readExactly_padded (by decide) hhour _)).trans ?_
    refine (bind_of_eq_some (readChar_cons _ _)).trans ?_
    refine (bind_of_eq_some (readExactly_padded (by decide) hminute _)).trans ?_
    refine (bind_of_eq_some (readChar_cons _ _)).trans ?_
    refine (bind_of_eq_some (readExactly_padded (by decide) hsecond _)).trans ?_
    exact (bind_of_eq_some (readFraction_writeFraction hnano)).trans rfl

/-- No blank stands in a number. -/
lemma isBlank_of_mem_padded {size : Nat} (h : c ∈ padded size n) : Text.isBlank c = false :=
  Numeric.isBlank_of_isDigit (Numeric.isDigit_of_mem_padded h)

lemma isBlank_of_mem_writeYear {year : Int} (h : c ∈ Date.writeYear year) :
    Text.isBlank c = false := by
  rw [Date.writeYear] at h
  split_ifs at h
  · rcases List.mem_cons.mp h with rfl | h
    · decide
    · exact isBlank_of_mem_padded h
  · rcases List.mem_cons.mp h with rfl | h
    · decide
    · exact isBlank_of_mem_padded h
  · exact isBlank_of_mem_padded h

lemma isBlank_of_mem_writeFraction (h : c ∈ Timestamp.writeFraction n) :
    Text.isBlank c = false := by
  rw [Timestamp.writeFraction] at h
  split_ifs at h
  · cases h
  all_goals
    rcases List.mem_cons.mp h with rfl | h
    · decide
    · exact isBlank_of_mem_padded h

/-- No blank stands in the text of a day. -/
lemma Date.isBlank_of_mem_write {d : Date} (h : c ∈ d.write) : Text.isBlank c = false := by
  simp only [Date.write, List.mem_append, List.mem_cons] at h
  rcases h with (h | rfl | h) | rfl | h
  · exact isBlank_of_mem_writeYear h
  · decide
  · exact isBlank_of_mem_padded h
  · decide
  · exact isBlank_of_mem_padded h

/-- No blank stands in the text of a moment. -/
lemma Timestamp.isBlank_of_mem_write {t : Timestamp} (h : c ∈ t.write) : Text.isBlank c = false := by
  simp only [Timestamp.write, List.mem_append, List.mem_cons] at h
  rcases h with (((h | rfl | h) | rfl | h) | rfl | h) | h
  · exact Date.isBlank_of_mem_write h
  · decide
  · exact isBlank_of_mem_padded h
  · decide
  · exact isBlank_of_mem_padded h
  · decide
  · exact isBlank_of_mem_padded h
  · exact isBlank_of_mem_writeFraction h

/-- A day is what its text is read as. -/
lemma Date.read?_write (d : Date) : Date.read? (Text.trim d.write) = some d := by
  have hread := readDate_write d []
  rw [List.append_nil] at hread
  rw [Text.trim_eq_self fun c hc => isBlank_of_mem_write hc, Date.read?, readAll?, hread]

/-- A moment is what its text is read as. -/
lemma Timestamp.read?_write (t : Timestamp) : Timestamp.read? (Text.trim t.write) = some t := by
  rw [Text.trim_eq_self fun c hc => isBlank_of_mem_write hc, Timestamp.read?, readAll?,
    readInternet_write, readAll?, readMoment_write]
  rfl

end RowQuery.Calendar
