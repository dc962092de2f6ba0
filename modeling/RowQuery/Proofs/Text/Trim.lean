import Mathlib.Data.List.TakeWhile
import Mathlib.Tactic.Lemma
import RowQuery.Text.Blank

/-!
Blanks and trimming. A text is what trimming leaves of it, with blanks around (`exists_blanks_around`), and
how many blanks stand there makes no difference (`trim_blanks_around`). A text without blanks is left as it is
(`trim_eq_self`).
-/

namespace RowQuery.Text

/-- There are only blanks in the text, if it has any characters. -/
def Blank (s : String) : Prop := ∀ c ∈ s.toList, isBlank c = true

instance (s : String) : Decidable (Blank s) := decidable_of_iff (s.toList.all isBlank = true) List.all_eq_true

lemma blank_empty : Blank "" := List.forall_mem_nil _

lemma Blank.append {s t : String} (hs : Blank s) (ht : Blank t) : Blank (s ++ t) := by
  rw [Blank, String.toList_append]
  exact List.forall_mem_append.mpr ⟨hs, ht⟩

variable {before core after cs : List Char} {c d : Char}

/-- Trimming takes the blanks around a text, however many there are. -/
lemma trim_blanks_around (hb : ∀ c ∈ before, isBlank c = true) (ha : ∀ c ∈ after, isBlank c = true)
    (cs : List Char) : trim (before ++ cs ++ after) = trim cs := by
  have hafter (ds : List Char) : trimRight (ds ++ after) = trimRight ds := by
    rw [trimRight, List.reverse_append,
      List.dropWhile_append_of_pos fun c hmem => ha c (List.mem_reverse.mp hmem), trimRight]
  rw [trim, trimLeft, List.append_assoc, List.dropWhile_append_of_pos hb, List.dropWhile_append]
  split
  · rename_i hnil
    rw [List.dropWhile_eq_nil_iff.mpr ha, trim, trimLeft, List.isEmpty_iff.mp hnil]
  · exact hafter _

/-- Trimming leaves a text without blanks alone. -/
lemma trim_eq_self (h : ∀ c ∈ cs, isBlank c = false) : trim cs = cs := by
  have hdrop {ds : List Char} (hds : ∀ c ∈ ds, isBlank c = false) : ds.dropWhile isBlank = ds := by
    cases ds with
    | nil => rfl
    | cons c ds => exact List.dropWhile_cons_of_neg (by simp [hds c])
  rw [trim, trimLeft, hdrop h, trimRight, hdrop fun c hc => h c (List.mem_reverse.mp hc),
    List.reverse_reverse]

/-- Blanks around a text without blanks are all that is trimmed off. -/
lemma trim_around (hb : ∀ c ∈ before, isBlank c = true) (ha : ∀ c ∈ after, isBlank c = true)
    (hc : ∀ c ∈ core, isBlank c = false) : trim (before ++ core ++ after) = core :=
  (trim_blanks_around hb ha core).trans (trim_eq_self hc)

/-- A text is what trimming leaves of it, with blanks around. -/
lemma exists_blanks_around (cs : List Char) : ∃ before after : List Char,
    (∀ c ∈ before, isBlank c = true) ∧ (∀ c ∈ after, isBlank c = true) ∧
      cs = before ++ trim cs ++ after := by
  refine ⟨cs.takeWhile isBlank, ((trimLeft cs).reverse.takeWhile isBlank).reverse, ?_, ?_, ?_⟩
  · exact fun c hmem => List.mem_takeWhile_imp hmem
  · exact fun c hmem => List.mem_takeWhile_imp (List.mem_reverse.mp hmem)
  · have hright : trim cs ++ ((trimLeft cs).reverse.takeWhile isBlank).reverse = trimLeft cs := by
      rw [trim, trimRight, ← List.reverse_append, List.takeWhile_append_dropWhile,
        List.reverse_reverse]
    rw [List.append_assoc, hright]
    exact List.takeWhile_append_dropWhile.symm

/-- Nothing is trimmed off a text whose ends are not blank. -/
lemma trim_of_ends (hc : isBlank c = false) (hd : isBlank d = false) (cs : List Char) :
    trim (c :: (cs ++ [d])) = c :: (cs ++ [d]) := by
  rw [trim, trimLeft, List.dropWhile_cons_of_neg (by simp [hc]), trimRight]
  rw [← List.cons_append, List.reverse_append, List.reverse_singleton, List.singleton_append]
  rw [List.dropWhile_cons_of_neg (by simp [hd]), List.reverse_cons, List.reverse_reverse]

lemma trimRight_of_trim (h : trim cs = cs) : trimRight cs = cs := by
  have hright : (trim cs).length ≤ (trimLeft cs).length := by
    have hle := (List.dropWhile_suffix isBlank (l := (trimLeft cs).reverse)).length_le
    rw [List.length_reverse] at hle
    rw [trim, trimRight, List.length_reverse]
    exact hle
  have hleft : trimLeft cs = cs := by
    refine (List.dropWhile_suffix isBlank).eq_of_length_le ?_
    rw [h] at hright
    exact hright
  rw [trim, hleft] at h
  exact h

/-- A character that is not blank can be put before a text that is trimmed. -/
lemma trim_cons (hc : isBlank c = false) (h : trim cs = cs) : trim (c :: cs) = c :: cs := by
  have hdrop : cs.reverse.dropWhile isBlank = cs.reverse := by
    rw [← List.reverse_inj, List.reverse_reverse]
    exact trimRight_of_trim h
  rw [trim, trimLeft, List.dropWhile_cons_of_neg (by simp [hc]), trimRight, List.reverse_cons,
    List.dropWhile_append, hdrop]
  split
  · rename_i hnil
    rw [List.reverse_eq_nil_iff.mp (List.isEmpty_iff.mp hnil),
      List.dropWhile_cons_of_neg (by simp [hc])]
    rfl
  · rw [List.reverse_append, List.reverse_reverse]
    rfl

/-- The first character that trimming leaves is not blank. -/
lemma isBlank_of_head?_trim (h : (trim cs).head? = some c) : isBlank c = false := by
  have hprefix : trim cs <+: trimLeft cs := by
    rw [← List.reverse_suffix, trim, trimRight, List.reverse_reverse]
    exact List.dropWhile_suffix isBlank
  obtain ⟨rest, hrest⟩ := List.head?_eq_some_iff.mp h
  obtain ⟨after, hafter⟩ := hprefix
  have hhead : (cs.dropWhile isBlank).head? = some c := by
    show (trimLeft cs).head? = _
    rw [← hafter, hrest]
    rfl
  have hnot := List.head?_dropWhile_not isBlank cs
  rwa [hhead] at hnot

/-- The last character that trimming leaves is not blank. -/
lemma isBlank_of_getLast?_trim (h : (trim cs).getLast? = some c) : isBlank c = false := by
  have hnot := List.head?_dropWhile_not isBlank (trimLeft cs).reverse
  rw [trim, trimRight, List.getLast?_reverse] at h
  rwa [h] at hnot

lemma trim_toList {s : String} (h : trimmed s = s) : trim s.toList = s.toList := by
  have hlist := congrArg String.toList h
  rwa [trimmed, String.toList_ofList] at hlist

end RowQuery.Text
