import Mathlib.Data.List.Forall2
import RowQuery.Proofs.Expression.Written

/-!
Pieces of texts. A text without the separator is one piece, and no piece holds it. So a text that could
be a value of a list is the only item of itself (`itemStrings_of_isItem`). Blanks around a text stand around
its first and its last piece, so the trimmed pieces do not change (`map_trim_splitOn_around`).
-/

namespace RowQuery

namespace Text

variable {sep c : Char} {cs : List Char}

lemma splitOn_of_not_mem (h : sep ∉ cs) : splitOn sep cs = [cs] := by
  induction cs with
  | nil => rfl
  | cons c cs ih =>
    have hne : c ≠ sep := fun heq => h (heq ▸ List.mem_cons_self)
    rw [splitOn, if_neg hne, ih fun hcs => h (List.mem_cons_of_mem c hcs)]

/-- No piece holds the separator. -/
lemma not_mem_of_mem_splitOn {piece : List Char} (h : piece ∈ splitOn sep cs) : sep ∉ piece := by
  induction cs generalizing piece with
  | nil =>
    obtain rfl := List.mem_singleton.mp h
    exact List.not_mem_nil
  | cons c cs ih =>
    rw [splitOn] at h
    split at h
    · rcases List.mem_cons.mp h with rfl | h
      · exact List.not_mem_nil
      · exact ih h
    · rename_i hc
      split at h
      · obtain rfl := List.mem_singleton.mp h
        exact fun hmem => hc (List.mem_singleton.mp hmem).symm
      · rename_i first pieces heq
        rcases List.mem_cons.mp h with rfl | h
        · have hfirst : sep ∉ first := ih (heq ▸ List.mem_cons_self)
          exact List.not_mem_cons_of_ne_of_not_mem (fun he => hc he.symm) hfirst
        · exact ih (heq ▸ List.mem_cons_of_mem first h)

/-- The piece is the other one with blanks behind it, if any. -/
def Trails (padded piece : List Char) : Prop :=
  ∃ blanks : List Char, (∀ c ∈ blanks, isBlank c = true) ∧ padded = piece ++ blanks

lemma Trails.trim_eq {padded piece : List Char} (h : Trails padded piece) : trim padded = trim piece := by
  obtain ⟨blanks, hblanks, rfl⟩ := h
  exact trim_blanks_around (List.forall_mem_nil _) hblanks piece

/-- Blanks behind a text trail its pieces, of which only the last one gets them. -/
lemma splitOn_append_blanks {after : List Char} (hsep : isBlank sep = false)
    (ha : ∀ c ∈ after, isBlank c = true) (cs : List Char) :
    List.Forall₂ Trails (splitOn sep (cs ++ after)) (splitOn sep cs) := by
  induction cs with
  | nil =>
    have hnot : sep ∉ after := by
      intro hmem
      simp [ha sep hmem] at hsep
    rw [List.nil_append, splitOn_of_not_mem hnot]
    exact .cons ⟨after, ha, rfl⟩ .nil
  | cons c cs ih =>
    rw [List.cons_append, splitOn, splitOn]
    by_cases hc : c = sep
    · rw [if_pos hc, if_pos hc]
      exact .cons ⟨[], List.forall_mem_nil _, rfl⟩ ih
    · obtain ⟨piece, pieces, hs⟩ := List.exists_cons_of_ne_nil (splitOn_ne_nil sep cs)
      obtain ⟨padded, others, hp⟩ := List.exists_cons_of_ne_nil (splitOn_ne_nil sep (cs ++ after))
      rw [if_neg hc, if_neg hc, hs, hp]
      rw [hs, hp] at ih
      obtain ⟨⟨blanks, hblanks, rfl⟩, hrest⟩ := List.forall₂_cons.mp ih
      exact .cons ⟨blanks, hblanks, rfl⟩ hrest

/-- Blanks before a text are trimmed off its first piece. -/
lemma map_trim_splitOn_append {before : List Char} (hsep : isBlank sep = false)
    (hb : ∀ c ∈ before, isBlank c = true) (cs : List Char) :
    (splitOn sep (before ++ cs)).map trim = (splitOn sep cs).map trim := by
  induction before with
  | nil => rfl
  | cons b before ih =>
    obtain ⟨hblank, hbefore⟩ := List.forall_mem_cons.mp hb
    have hne : b ≠ sep := by
      rintro rfl
      simp [hblank] at hsep
    obtain ⟨piece, pieces, hs⟩ := List.exists_cons_of_ne_nil (splitOn_ne_nil sep (before ++ cs))
    have hpiece : trim (b :: piece) = trim piece := congrArg trimRight (List.dropWhile_cons_of_pos hblank)
    rw [← ih hbefore, List.cons_append, splitOn, if_neg hne, hs, List.map_cons, List.map_cons, hpiece]

/-- The trimmed pieces of a text are those of the text with any blanks around it. -/
lemma map_trim_splitOn_around {before after : List Char} (hsep : isBlank sep = false)
    (hb : ∀ c ∈ before, isBlank c = true) (ha : ∀ c ∈ after, isBlank c = true) (cs : List Char) :
    (splitOn sep (before ++ cs ++ after)).map trim = (splitOn sep cs).map trim := by
  rw [List.append_assoc, map_trim_splitOn_append hsep hb, ← List.forall₂_eq_eq_eq,
    List.forall₂_map_left_iff, List.forall₂_map_right_iff]
  exact (splitOn_append_blanks hsep ha cs).imp fun _ _ h => h.trim_eq

/-- A text that could be a value of a list is the only item of itself. -/
lemma itemStrings_of_isItem {s : String} (hne : s ≠ "") (h : Expression.IsItem s) :
    itemStrings s = [s] := by
  have hs : trim s.toList = s.toList := trim_toList h.1
  have hsome : s.toList.isEmpty = false := by
    rw [Bool.eq_false_iff]
    intro hempty
    exact hne (String.toList_eq_nil_iff.mp (List.isEmpty_iff.mp hempty))
  rw [itemStrings, items, splitOn_of_not_mem h.2, List.map_singleton, hs,
    List.filter_cons_of_pos (by simp [hsome])]
  simp

end Text

end RowQuery
