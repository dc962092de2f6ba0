import RowQuery.Proofs.Search.Terms

/-!
What a query says is what its terms say. Blanks and double quotes separate terms and hold them together; the
other characters of a text are its `letters`. Reading cuts a query and changes blanks, but it neither drops a
letter nor makes one up, and it keeps them in order (`letters_kept`).
-/

namespace RowQuery.SearchTerms

open Text (isBlank trim)

/-- The characters of a text that are neither blanks nor double quotes, in order. -/
def letters (cs : List Char) : List Char := cs.filter fun c => !isBlank c && c ≠ '"'

variable {run cs : List Char} {c : Char}

@[simp]
lemma letters_append (cs ds : List Char) : letters (cs ++ ds) = letters cs ++ letters ds :=
  List.filter_append cs ds

@[simp]
lemma letters_quote_cons (cs : List Char) : letters ('"' :: cs) = letters cs :=
  List.filter_cons_of_neg (by decide)

/-- Blanks have no letters. -/
lemma letters_of_blank (h : ∀ c ∈ cs, isBlank c = true) : letters cs = [] := by
  refine List.filter_eq_nil_iff.mpr fun c hc => ?_
  simp [h c hc]

lemma letters_blank_cons (h : isBlank c = true) (cs : List Char) : letters (c :: cs) = letters cs :=
  List.filter_cons_of_neg (by simp [h])

/-- A head in front of a text has the same letters in front of any other one. -/
lemma letters_cons_congr {ds : List Char} (h : letters cs = letters ds) :
    letters (c :: cs) = letters (c :: ds) := by
  rw [← List.singleton_append, letters_append, h, ← letters_append, List.singleton_append]

lemma letters_squeezeRun (h : ∀ c ∈ run, isBlank c = true) : letters (squeezeRun run) = [] := by
  rcases run with _ | ⟨c, _ | ⟨d, run⟩⟩
  · rfl
  · exact letters_of_blank h
  · exact letters_of_blank (List.forall_mem_singleton.mpr rfl)

/-- Squeezing takes nothing but blanks. -/
lemma letters_squeezeAfter (h : ∀ c ∈ run, isBlank c = true) :
    letters (squeezeAfter run cs) = letters cs := by
  induction cs generalizing run with
  | nil => exact letters_squeezeRun h
  | cons c cs ih =>
    rw [squeezeAfter]
    split
    · rename_i hc
      have hmore : ∀ x ∈ run ++ [c], isBlank x = true := by
        simpa [or_imp, forall_and] using ⟨h, hc⟩
      rw [ih hmore, letters_blank_cons hc]
    · rw [letters_append, letters_squeezeRun h, List.nil_append]
      exact letters_cons_congr (ih (List.forall_mem_nil _))

lemma letters_trim (cs : List Char) : letters (trim cs) = letters cs := by
  obtain ⟨before, after, hb, ha, hcs⟩ := Text.exists_blanks_around cs
  conv_rhs => rw [hcs]
  rw [letters_append, letters_append, letters_of_blank hb, letters_of_blank ha, List.nil_append,
    List.append_nil]

/-- A term has the letters of its piece. -/
lemma letters_term (piece : List Char) : letters (term piece) = letters piece :=
  (letters_squeezeAfter (List.forall_mem_nil _)).trans (letters_trim piece)

/-- The pieces of a query have its letters: what stands between them is blank or a quote. -/
lemma flatMap_letters_pieces (cs : List Char) : (pieces cs).flatMap letters = letters cs := by
  -- A word and what stands behind it are the text.
  have word (c : Char) (cs : List Char) :
      letters (c :: cs.takeWhile inWord) ++ letters (cs.dropWhile inWord) = letters (c :: cs) := by
    rw [← letters_append, List.cons_append, List.takeWhile_append_dropWhile]
  fun_induction pieces cs with
  | case1 => rfl
  | case2 cs inner rest hq ih =>
    obtain ⟨rfl, -⟩ := quotedRun?_eq hq
    simp [ih]
  | case3 cs hq ih => rw [List.flatMap_cons, ih, word]
  | case4 c cs hq hc ih => rw [ih, letters_blank_cons hc]
  | case5 c cs hq hc ih => rw [List.flatMap_cons, ih, word]

/-- The terms of a query, one behind the other, have the letters of the query: none is lost, none is new, and
they stand in their order. -/
theorem letters_kept (query : String) :
    letters (String.join (parse query)).toList = letters query.toList := by
  have hjoin : (String.join (parse query)).toList = (pieces query.toList).flatMap term := by
    rw [String.toList_join, parse, read, List.map_map, List.flatMap_map]
    simp
  have hterms (pieces : List (List Char)) :
      letters (pieces.flatMap term) = pieces.flatMap letters := by
    rw [letters, List.filter_flatMap]
    exact List.flatMap_congr fun piece _ => letters_term piece
  rw [hjoin, hterms, flatMap_letters_pieces]

end RowQuery.SearchTerms
