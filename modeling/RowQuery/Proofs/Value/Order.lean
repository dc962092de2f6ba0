import Mathlib.Data.String.Basic
import Mathlib.Order.Compare
import Mathlib.Order.WithBot
import RowQuery.Proofs.Calendar.Order
import RowQuery.Proofs.Numeric.Magnitude
import RowQuery.Schema
import RowQuery.Value

/-!
The native order of values. `Value.same` and `Value.below` say whether two values of one type
are equal, and whether one comes first: numbers by the number that they stand for, texts
by their characters, days and moments by year, month, day, second and nanosecond. On the values that
a column admits the comparisons of the store are this order (`Value.Is.linear`), and with null in the
first place it is the order of sorting (`ColumnKind.Admits.linear`).
-/

namespace RowQuery

open Calendar (Date Timestamp)

namespace Value

/-- The values of a type. A floating-point number is a finite one. -/
inductive Is : Expected → Value → Prop where
  | boolean (b : Bool) : Is .boolean (bool b)
  | integer (n : Int) : Is .integer (int n)
  | number (x : Numeric.Binary64) : x.isFinite = true → Is .number (float x)
  | string (s : String) : Is .string (string s)
  | date (d : Date) : Is .date (date d)
  | datetime (t : Timestamp) : Is .datetime (timestamp t)

/-- Whether the values are equal. Null equals nothing, and both zeros are one number. -/
def same : Value → Value → Bool
  | null, _ => false
  | float x, float y => x.value = y.value
  | v, w => v = w

/-- Whether the first value comes before the second one of its type. -/
def below : Value → Value → Bool
  | bool a, bool b => !a && b
  | int a, int b => a < b
  | float x, float y => x.value < y.value
  | string a, string b => a < b
  | date a, date b => a.Before b
  | timestamp a, timestamp b => a.Before b
  | _, _ => false

/-- Whether the first value comes before the second one where rows are sorted: null comes before every
other value. -/
def precedes (v w : Value) : Bool := v.isNull && !w.isNull || v.below w

@[simp]
lemma below_null (v : Value) : below v null = false := by cases v <;> rfl

/-- The truth value of a value, or no. -/
@[simp]
def truthPlace : Value → Bool
  | bool b => b
  | _ => false

/-- The integer by which a value is compared, or zero. -/
@[simp]
def integerPlace : Value → Int
  | int n => n
  | date d => d.key
  | timestamp t => t.key
  | _ => 0

/-- The rational number by which a value is compared, or zero. -/
@[simp]
def numberPlace : Value → ℚ
  | float x => x.value
  | _ => 0

/-- The text by which a value is compared, or the empty one. -/
@[simp]
def textPlace : Value → String
  | string s => s
  | _ => ""

/-- The values of a type are ordered linearly, and the store compares them in this order. -/
lemma Is.linear (e : Expected) : ∃ (β : Type) (_ : LinearOrder β) (place : Value → β),
    ∀ v w, v.Is e → w.Is e →
      compare? v w = some (compare (place v) (place w)) ∧
      (v.equal w = true ↔ place v = place w) ∧
      (v.same w = true ↔ place v = place w) ∧ (v.below w = true ↔ place v < place w) := by
  cases e with
  | boolean =>
    refine ⟨Bool, inferInstance, truthPlace, ?_⟩
    intro v w hv hw
    cases hv with | boolean a =>
    cases hw with | boolean b =>
    cases a <;> cases b <;> exact ⟨rfl, by decide, by decide, by decide⟩
  | integer =>
    refine ⟨Int, inferInstance, integerPlace, ?_⟩
    intro v w hv hw
    cases hv with | integer a =>
    cases hw with | integer b =>
    exact ⟨rfl, by simp [equal], by simp [same], by simp [below]⟩
  | number =>
    refine ⟨ℚ, inferInstance, numberPlace, ?_⟩
    intro v w hv hw
    cases hv with | number x hx =>
    cases hw with | number y hy =>
    have hc := Numeric.Binary64.compare?_of_finite hx hy
    exact ⟨hc, by simp [equal, Numeric.Binary64.equal, hc], by simp [same], by simp [below]⟩
  | string =>
    refine ⟨String, inferInstance, textPlace, ?_⟩
    intro v w hv hw
    cases hv with | string a =>
    cases hw with | string b =>
    have hc := LinearOrder.compare_eq_compareOfLessAndEq a b
    exact ⟨congrArg some hc.symm, by simp [equal], by simp [same], by simp [below]⟩
  | date =>
    refine ⟨Int, inferInstance, integerPlace, ?_⟩
    intro v w hv hw
    cases hv with | date a =>
    cases hw with | date b =>
    exact ⟨rfl, by simp [equal, Date.key_inj], by simp [same, Date.key_inj],
      by simp [below, Date.key_lt_iff]⟩
  | datetime =>
    refine ⟨Int, inferInstance, integerPlace, ?_⟩
    intro v w hv hw
    cases hv with | datetime a =>
    cases hw with | datetime b =>
    exact ⟨rfl, by simp [equal, Timestamp.key_inj], by simp [same, Timestamp.key_inj],
      by simp [below, Timestamp.key_lt_iff]⟩
  | integerFlag => exact ⟨Unit, inferInstance, fun _ => (), fun v w hv => nomatch hv⟩

/-- A value of a type is not null. -/
lemma Is.isNull {e : Expected} {v : Value} (h : v.Is e) : v.isNull = false := by
  cases h <;> rfl

end Value

/-- The values that the cells of a column of the kind may have. -/
def ColumnKind.Admits (kind : ColumnKind) (v : Value) : Prop := v = .null ∨ v.Is kind.expected

/-- The cells of a column are ordered linearly with null first, and sorting compares them in this
order. -/
lemma ColumnKind.Admits.linear (kind : ColumnKind) :
    ∃ (β : Type) (_ : LinearOrder β) (place : Value → β), ∀ v w, kind.Admits v → kind.Admits w →
      v.sortCompare w = compare (place v) (place w) ∧
      (v.precedes w = true ↔ place v < place w) := by
  obtain ⟨β, _, place, h⟩ := Value.Is.linear kind.expected
  refine ⟨WithBot β, inferInstance, fun v => if v.isNull then ⊥ else place v, ?_⟩
  have hnull : Value.null.isNull = true := rfl
  rintro v w (rfl | hv) (rfl | hw)
  · exact ⟨(compare_eq_iff_eq.mpr rfl).symm, by simp [Value.precedes, hnull]⟩
  · have hlt : (⊥ : WithBot β) < place w := WithBot.bot_lt_coe _
    simp only [Value.sortCompare, Value.precedes, hw.isNull, hnull]
    exact ⟨(compare_lt_iff_lt.mpr hlt).symm, by simp⟩
  · have hlt : (⊥ : WithBot β) < place v := WithBot.bot_lt_coe _
    simp only [Value.sortCompare, Value.precedes, hv.isNull, hnull, Value.below_null]
    exact ⟨(compare_gt_iff_gt.mpr hlt).symm, by simp⟩
  · obtain ⟨hc, -, -, hb⟩ := h v w hv hw
    -- What is not null is compared above null as without it.
    have hmap : compare (place v : WithBot β) (place w) = compare (place v) (place w) := by
      rw [← cmp_eq_compare, ← cmp_eq_compare, WithBot.coe_strictMono.cmp_map_eq]
    simp only [Value.sortCompare, Value.precedes, hv.isNull, hw.isNull, hc]
    exact ⟨hmap.symm, by simp [hb]⟩

end RowQuery
