import Mathlib.Tactic.Lemma
import Mathlib.Tactic.SplitIfs
import RowQuery.Calendar.Timestamp

/-!
The order of time. A day comes before another one by year, month and day, a moment by its day, second
and nanosecond. The keys of days and moments put them in this order and tell them apart.
-/

namespace RowQuery.Calendar

namespace Date

/-- The day comes first in the calendar. -/
def Before (a b : Date) : Prop :=
  a.year < b.year ∨ a.year = b.year ∧ (a.month < b.month ∨ a.month = b.month ∧ a.day < b.day)

instance (a b : Date) : Decidable (a.Before b) := inferInstanceAs (Decidable (_ ∨ _))

variable {a b : Date}

/-- A day is told by its numbers. -/
lemma eq_of_numbers (hy : a.year = b.year) (hm : a.month = b.month) (hd : a.day = b.day) : a = b := by
  cases a
  cases b
  cases hy
  cases hm
  cases hd
  rfl

lemma daysIn_le (year : Int) (month : Nat) : daysIn year month ≤ 31 := by
  rw [daysIn]
  split_ifs <;> omega

/-- The numbers of a day are in range. -/
lemma bounds (d : Date) : minYear ≤ d.year ∧ d.year ≤ maxYear ∧ 1 ≤ d.month ∧ d.month ≤ 12 ∧
    1 ≤ d.day ∧ d.day ≤ daysIn d.year d.month := by
  have hv := d.valid
  simp only [isDay, Bool.and_eq_true, decide_eq_true_eq] at hv
  omega

lemma day_le (d : Date) : d.day ≤ 31 :=
  Nat.le_trans d.bounds.2.2.2.2.2 (daysIn_le d.year d.month)

/-- The keys of days are in the order of the calendar. -/
lemma key_lt_iff : a.key < b.key ↔ a.Before b := by
  have ha := a.bounds
  have hb := b.bounds
  have ha' := a.day_le
  have hb' := b.day_le
  rw [key, key, Before]
  omega

/-- The key tells days apart. -/
lemma key_inj : a.key = b.key ↔ a = b := by
  constructor
  · intro h
    have ha := a.bounds
    have hb := b.bounds
    have ha' := a.day_le
    have hb' := b.day_le
    rw [key, key] at h
    exact eq_of_numbers (by omega) (by omega) (by omega)
  · rintro rfl
    rfl

end Date

namespace Timestamp

/-- The moment comes first. -/
def Before (a b : Timestamp) : Prop :=
  a.date.Before b.date ∨
    a.date = b.date ∧ (a.second < b.second ∨ a.second = b.second ∧ a.nano < b.nano)

instance (a b : Timestamp) : Decidable (a.Before b) := inferInstanceAs (Decidable (_ ∨ _))

variable {a b : Timestamp}

/-- A moment is told by its day and numbers. -/
lemma eq_of_numbers (hd : a.date = b.date) (hs : a.second = b.second) (hn : a.nano = b.nano) :
    a = b := by
  cases a
  cases b
  cases hd
  cases hs
  cases hn
  rfl

/-- The numbers of a moment are in range; a leap second only follows the last second of a minute. -/
lemma bounds (t : Timestamp) : t.second < 86400 ∧
    (t.nano < 1000000000 ∨ t.nano < 2000000000 ∧ t.second % 60 = 59) := by
  have hv := t.valid
  simp only [isMoment, Bool.and_eq_true, Bool.or_eq_true, decide_eq_true_eq] at hv
  exact hv

/-- The keys of moments are in the order of time. -/
lemma key_lt_iff : a.key < b.key ↔ a.Before b := by
  have ha := a.bounds
  have hb := b.bounds
  rw [Before, ← Date.key_lt_iff, ← Date.key_inj, key, key, secondsPerDay, nanosPerSecond]
  omega

/-- The key tells moments apart. -/
lemma key_inj : a.key = b.key ↔ a = b := by
  constructor
  · intro h
    have ha := a.bounds
    have hb := b.bounds
    rw [key, key, secondsPerDay, nanosPerSecond] at h
    exact eq_of_numbers (Date.key_inj.mp (by omega)) (by omega) (by omega)
  · rintro rfl
    rfl

end Timestamp

end RowQuery.Calendar
