import RowQuery.Proofs.Expression.Complete
import RowQuery.Proofs.Text.Items

/-!
Blanks in and around lists. Blanks around the brackets of a list make no difference, and those at the ends of
what stands between them make none as long as something else stands there (`padding_kept_iff`). Between
brackets with nothing in them a blank is a value, the empty text, while the list without it has no value.
-/

namespace RowQuery.Expression

open Text (isBlank Blank blank_empty)

/-- What a list is enclosed in. -/
def brackets : List (String × String) := [("(", ")"), ("[", "]")]

variable {before after inBefore inAfter left right s : String} {op : Operator}

/-- Blanks around a list make no difference. -/
lemma readList_around {before after : List Char} (hb : ∀ c ∈ before, isBlank c = true)
    (ha : ∀ c ∈ after, isBlank c = true) (cs : List Char) :
    readList (before ++ cs ++ after) = readList cs := by
  rw [readList, Text.trim_blanks_around hb ha, readList]

/-- What stands in brackets is cut at its commas, whatever blanks stand around the brackets. -/
lemma listValues_enclosed (hb : Blank before) (ha : Blank after) (hends : (left, right) ∈ brackets)
    (inner : String) : listValues (before ++ left ++ inner ++ right ++ after) =
      if inner = "" then []
      else ((Text.splitOn ',' inner.toList).map Text.trim).map String.ofList := by
  obtain ⟨l, r, rfl, rfl, hlr⟩ : ∃ l r : Char, left = String.singleton l ∧ right = String.singleton r ∧
      (l, r) ∈ [('(', ')'), ('[', ']')] := by
    rcases List.mem_pair.mp hends with h | h <;> cases h
    · exact ⟨'(', ')', rfl, rfl, by decide⟩
    · exact ⟨'[', ']', rfl, rfl, by decide⟩
  have hlist : (String.singleton l ++ inner ++ String.singleton r).toList =
      l :: (inner.toList ++ [r]) := by
    simp
  have htext : (before ++ String.singleton l ++ inner ++ String.singleton r ++ after).toList =
      before.toList ++ (String.singleton l ++ inner ++ String.singleton r).toList ++ after.toList := by
    simp
  rw [listValues, htext, readList_around hb ha, readList_brackets hlist hlr]
  by_cases hinner : inner = ""
  · rw [if_pos hinner, hinner]
    rfl
  · have hne : inner.toList.isEmpty = false := by simpa using hinner
    rw [if_neg hinner, hne, if_neg Bool.false_ne_true]

/-- An operand that is blank between its brackets has no value if nothing stands there, and else the empty
text. -/
lemma listValues_blank (hb : Blank before) (ha : Blank after) (hends : (left, right) ∈ brackets)
    {inner : String} (hinner : Blank inner) :
    listValues (before ++ left ++ inner ++ right ++ after) = if inner = "" then [] else [""] := by
  have hcomma : ',' ∉ inner.toList := fun hmem => absurd (hinner ',' hmem) (by decide)
  have htrim : Text.trim inner.toList = [] := by
    simpa [Text.trim_nil] using Text.trim_blanks_around hinner (List.forall_mem_nil _) []
  rw [listValues_enclosed hb ha hends, Text.splitOn_of_not_mem hcomma, List.map_singleton, htrim]
  rfl

/-- Blanks at the ends of what stands in brackets make no difference if something else stands there. -/
lemma listValues_padded (hb : Blank before) (ha : Blank after) (hbIn : Blank inBefore)
    (haIn : Blank inAfter) (hends : (left, right) ∈ brackets) (hs : s ≠ "") :
    listValues (before ++ left ++ (inBefore ++ s ++ inAfter) ++ right ++ after) =
      listValues (left ++ s ++ right) := by
  have hbare : left ++ s ++ right = "" ++ left ++ s ++ right ++ "" := by simp
  have hne : inBefore ++ s ++ inAfter ≠ "" := by simp [hs]
  rw [hbare, listValues_enclosed hb ha hends, listValues_enclosed blank_empty blank_empty hends, if_neg hne, if_neg hs,
    String.toList_append, String.toList_append, Text.map_trim_splitOn_around (by decide) hbIn haIn]

/-- The operators for members of a list take between one value and a thousand. -/
lemma limits_of_oneOf (h : op ∈ Operator.all) (hn : op.name = "in" ∨ op.name = "out") :
    op.takesList = true ∧ op.minValues = 1 ∧ op.maxValues = 1000 := by
  revert op
  decide

/-- Blanks around the brackets of a list, and at the ends of what stands between them, keep its values iff
something stands there without them, or they do not stand inside at all. An operand that is blank between its
brackets has no value if it is empty there, so that the operators for members of a list refuse it; any blank
makes it a list of the empty text, which they take. -/
theorem padding_kept_iff (hb : Blank before) (ha : Blank after) (hbIn : Blank inBefore)
    (haIn : Blank inAfter) (hends : (left, right) ∈ brackets) (s : String) :
    let operand := before ++ left ++ (inBefore ++ s ++ inAfter) ++ right ++ after
    (listValues operand = listValues (left ++ s ++ right) ↔ s ≠ "" ∨ inBefore ++ inAfter = "") ∧
    (Blank s → listValues operand = if inBefore ++ s ++ inAfter = "" then [] else [""]) ∧
    ∀ op ∈ Operator.all, op.name = "in" ∨ op.name = "out" → Blank s → ∀ field,
      parse field (written op.name operand) =
        if inBefore ++ s ++ inAfter = "" then .error (.arityViolation field op 0)
        else .ok ⟨op, .list [""]⟩ := by
  intro operand
  have hblank (hs : Blank s) : listValues operand = if inBefore ++ s ++ inAfter = "" then [] else [""] :=
    listValues_blank hb ha hends ((hbIn.append hs).append haIn)
  refine ⟨?_, hblank, fun op hop hn hs field => ?_⟩
  · by_cases hs : s = ""
    · have hbare : listValues (left ++ s ++ right) = [] := by
        simpa [hs] using listValues_blank blank_empty blank_empty hends blank_empty
      rw [hblank (hs ▸ blank_empty), hbare, hs, String.append_empty]
      split <;> simp [*]
    · exact iff_of_true (listValues_padded hb ha hbIn haIn hends hs) (.inl hs)
  · obtain ⟨hnamed, hcolon⟩ := Operator.named?_of_mem hop
    obtain ⟨hl, hmin, hmax⟩ := limits_of_oneOf hop hn
    rw [parse_written hnamed hcolon, operand?_list hl (hblank hs), hmin, hmax]
    split <;> rfl

/-- Blanks at the ends of a list in brackets, which are trimmed off its values, and a tab as all that stands
between brackets, which is taken for the empty text. -/
theorem cityNames_padding_kept :
    let member : Operator := ⟨"in", .oneOf, "field is equal to one of the given values", false, 1, 1000, false⟩
    (Blank " " ∧ Blank "\t" ∧ Blank "" ∧ ("[", "]") ∈ brackets) ∧
    listValues (" " ++ "[" ++ ("\t" ++ "Rome, [Bonn]" ++ "") ++ "]" ++ "") =
      listValues ("[" ++ "Rome, [Bonn]" ++ "]") ∧
    parse "name" (written "in" (" " ++ "[" ++ ("\t" ++ "" ++ "") ++ "]" ++ "")) =
      .ok ⟨member, .list [""]⟩ := by
  intro member
  have hspace : Blank " " := by decide
  have htab : Blank "\t" := by decide
  have hends : ("[", "]") ∈ brackets := by decide
  refine ⟨⟨hspace, htab, blank_empty, hends⟩, ?_, ?_⟩
  · exact (padding_kept_iff hspace blank_empty htab blank_empty hends "Rome, [Bonn]").1.mpr (.inl (by decide))
  · exact (padding_kept_iff hspace blank_empty htab blank_empty hends "").2.2 member (by decide) (.inl rfl) blank_empty "name"

/-- One blank between brackets makes a value of a list that has none, and the operators for members of a list
take it. -/
theorem blank_makes_value :
    (listValues "( )" = [""] ∧ listValues "()" = []) ∧
    parse "name" "in:( )" =
      .ok ⟨⟨"in", .oneOf, "field is equal to one of the given values", false, 1, 1000, false⟩, .list [""]⟩ :=
  ⟨⟨by decide, by decide⟩, by decide⟩

end RowQuery.Expression
