import Mathlib.Data.List.Infix
import Mathlib.Tactic.Lemma
import RowQuery.Text.Case

/-!
Lower-casing a part of a text. Every character but the capital sigma has one lower-case form, whatever
stands around it, so the lower-case form of a part stands in that of the whole text as soon as each
capital sigma of the part ends a word in both or in neither: `lower_infix`. That is so in a part without
capital sigmas, and in one that is not cut out of a word.
-/

namespace RowQuery.Text

/-- Whether a capital sigma behind one text, which is given in reverse, and in front of another ends a
word. -/
def endsWord (seen rest : List Char) : Bool := startsCased seen && !startsCased rest

/-- The lower-case form of a text between two others, of which the first is given in reverse. -/
def lowerWithin (seen rest : List Char) : List Char → List Char
  | [] => []
  | c :: cs =>
    (if c = 'Σ' then [if endsWord seen (cs ++ rest) then 'ς' else 'σ'] else lowerChar c) ++
      lowerWithin (c :: seen) rest cs

/-- Each capital sigma of a text ends a word behind `before` and in front of `after` iff it ends one in
the text alone. -/
def KeepsFinals (before cs after : List Char) : Prop :=
  ∀ x y, cs = x ++ 'Σ' :: y →
    endsWord (x.reverse ++ before.reverse) (y ++ after) = endsWord x.reverse y

variable {seen rest before cs after : List Char}

/-- A text is lower-cased with the text behind it in view. -/
lemma lowerAfter_append (seen cs rest : List Char) :
    lowerAfter seen (cs ++ rest) =
      lowerWithin seen rest cs ++ lowerAfter (cs.reverse ++ seen) rest := by
  induction cs generalizing seen with
  | nil => rfl
  | cons c cs ih =>
    have hseen : (c :: cs).reverse ++ seen = cs.reverse ++ c :: seen := by simp
    rw [hseen, List.cons_append, lowerAfter, lowerWithin, ih, List.append_assoc]
    split <;> rfl

lemma lower_eq (cs : List Char) : lower cs = lowerWithin [] [] cs := by
  have h := lowerAfter_append [] cs []
  rwa [List.append_nil, lowerAfter, List.append_nil] at h

/-- What stands around a text matters only to its capital sigmas. -/
lemma lowerWithin_congr {seen' rest' : List Char}
    (h : ∀ x y, cs = x ++ 'Σ' :: y →
      endsWord (x.reverse ++ seen) (y ++ rest) = endsWord (x.reverse ++ seen') (y ++ rest')) :
    lowerWithin seen rest cs = lowerWithin seen' rest' cs := by
  induction cs generalizing seen seen' with
  | nil => rfl
  | cons c cs ih =>
    have hcs : lowerWithin (c :: seen) rest cs = lowerWithin (c :: seen') rest' cs := by
      refine ih fun x y hxy => ?_
      have hx := h (c :: x) y (by rw [hxy, List.cons_append])
      simpa only [List.reverse_cons, List.append_assoc, List.singleton_append] using hx
    rw [lowerWithin, lowerWithin, hcs]
    split
    · rename_i hc
      have hfinal : endsWord seen (cs ++ rest) = endsWord seen' (cs ++ rest') := h [] cs (by rw [hc]; rfl)
      rw [hfinal]
    · rfl

/-- The lower-case form of a part of a text stands in that of the whole text. -/
theorem lower_infix (h : KeepsFinals before cs after) :
    lower cs <:+: lower (before ++ cs ++ after) := by
  have hpart : lowerWithin before.reverse after cs = lower cs := by
    rw [lower_eq]
    refine lowerWithin_congr fun x y hxy => ?_
    rw [h x y hxy, List.append_nil, List.append_nil]
  have hwhole : lower (before ++ cs ++ after) = lowerWithin [] (cs ++ after) before ++
      (lower cs ++ lowerAfter (cs.reverse ++ before.reverse) after) := by
    rw [lower, List.append_assoc, lowerAfter_append, List.append_nil, lowerAfter_append, hpart]
  rw [hwhole, ← List.append_assoc]
  exact ⟨_, _, rfl⟩

/-- Without capital sigmas it does not matter what stands around a text. -/
lemma keepsFinals_of_not_mem (h : 'Σ' ∉ cs) : KeepsFinals before cs after := by
  intro x y hxy
  exact absurd (by simp [hxy]) h

lemma startsCased_append (h : startsCased rest = false) : startsCased (cs ++ rest) = startsCased cs := by
  rw [startsCased, startsCased, List.find?_append]
  cases hcs : cs.find? fun c => !caseIgnorable.contains c with
  | some c => rfl
  | none => exact h

/-- A text keeps its capital sigmas if it is not cut out of a word: what stands before it ends without a
cased character, and what stands behind it begins without one. -/
lemma keepsFinals_of_words (hb : startsCased before.reverse = false) (ha : startsCased after = false) :
    KeepsFinals before cs after := by
  intro x y _
  rw [endsWord, endsWord, startsCased_append hb, startsCased_append ha]

end RowQuery.Text
