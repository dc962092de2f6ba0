import RowQuery.Proofs.Search.Terms

/-!
Queries as a client writes them. A term stands between two quotes, or bare if it has no blanks, and blanks
separate it from the next one: `Writes`. A text can be a term of a query if it is `Quotable`. Every list of
such texts can be written, and however it is written, reading gives it back (`terms_read_back`).
-/

namespace RowQuery.SearchTerms

open Text (isBlank trim Blank)

instance (cs : List Char) : Decidable (Sparse cs) := inferInstanceAs (Decidable (List.IsChain _ cs))

/-- A text that quoting makes a term as it is: it is not empty, has no quote, no blanks at its ends and no two
blanks side by side. -/
structure Quotable (term : String) : Prop where
  nonempty : term ≠ ""
  unquoted : '"' ∉ term.toList
  trimmed : Text.trimmed term = term
  sparse : Sparse term.toList

/-- The two ways to write a term. -/
inductive Spells (term : String) : String → Prop where
  | quoted : Spells term ("\"" ++ term ++ "\"")
  | bare : (∀ c ∈ term.toList, isBlank c = false) → Spells term term

/-- The text writes the terms from its beginning on. Blanks may stand behind each of them, and at least one
stands before the next. -/
inductive WritesFrom : List String → String → Prop where
  | nil : WritesFrom [] ""
  | cons {term text gap rest : String} {terms : List String} : Spells term text → Blank gap →
    (terms ≠ [] → gap ≠ "") → WritesFrom terms rest → WritesFrom (term :: terms) (text ++ gap ++ rest)

/-- The query writes the terms, behind any blanks. -/
def Writes (terms : List String) (query : String) : Prop :=
  ∃ before body, Blank before ∧ WritesFrom terms body ∧ query = before ++ body

variable {run cs rest : List Char} {term text query : String} {terms : List String}

lemma squeezeRun_of_sparse (hrun : ∀ c ∈ run, isBlank c = true) (h : Sparse (run ++ cs)) :
    squeezeRun run = run := by
  rcases run with _ | ⟨c, _ | ⟨d, run⟩⟩
  · rfl
  · rfl
  · have hpair : Sparse ([c, d] ++ (run ++ cs)) := h
    have hcd := hpair.rel
    simp [hrun] at hcd

/-- Where no two blanks are side by side there is nothing to squeeze. -/
lemma squeezeAfter_of_sparse (hrun : ∀ c ∈ run, isBlank c = true) (h : Sparse (run ++ cs)) :
    squeezeAfter run cs = run ++ cs := by
  induction cs generalizing run with
  | nil => rw [squeezeAfter, squeezeRun_of_sparse hrun h, List.append_nil]
  | cons c cs ih =>
    rw [squeezeAfter]
    split
    · rename_i hc
      have hmore : ∀ x ∈ run ++ [c], isBlank x = true := by
        simpa [or_imp, forall_and] using ⟨hrun, hc⟩
      rw [ih hmore (by simpa using h), List.append_assoc]
      rfl
    · have hrest : Sparse ([] ++ cs) := List.IsChain.infix h ⟨run ++ [c], [], by simp⟩
      rw [squeezeRun_of_sparse hrun h, ih (List.forall_mem_nil _) hrest]
      rfl

/-- What is quotable is the term of itself. -/
lemma Quotable.term_eq (h : Quotable term) : SearchTerms.term term.toList = term.toList := by
  rw [SearchTerms.term, Text.trim_toList h.trimmed]
  exact squeezeAfter_of_sparse (List.forall_mem_nil _) h.sparse

/-- The blanks before a query have no pieces. -/
lemma pieces_blanks (h : Blank text) (cs : List Char) : pieces (text.toList ++ cs) = pieces cs := by
  rw [Blank] at h
  generalize text.toList = blanks at h
  induction blanks with
  | nil => rfl
  | cons c blanks ih =>
    obtain ⟨hc, hblanks⟩ := List.forall_mem_cons.mp h
    have hquote : c ≠ '"' := by
      rintro rfl
      exact absurd hc (by decide)
    rw [List.cons_append, pieces, if_neg hquote, if_pos hc]
    exact ih hblanks

/-- A bare term is the first piece of a query if nothing or a blank follows it. -/
lemma pieces_bare {word : List Char} (hne : word ≠ []) (hquote : '"' ∉ word)
    (hword : ∀ c ∈ word, isBlank c = false) (hrest : ∀ c ∈ rest.head?, isBlank c = true) :
    pieces (word ++ rest) = word :: pieces rest := by
  obtain ⟨c, cs, rfl⟩ := List.exists_cons_of_ne_nil hne
  have hc : c ≠ '"' := fun h => hquote (h ▸ List.mem_cons_self)
  have hcs : ∀ x ∈ cs, inWord x = true := fun x hx => by simp [inWord, hword x (by simp [hx])]
  have htake : rest.takeWhile inWord = [] := by
    cases rest with
    | nil => rfl
    | cons x rest => exact List.takeWhile_cons_of_neg (by simp [inWord, hrest x rfl])
  have hdrop : rest.dropWhile inWord = rest := by
    cases rest with
    | nil => rfl
    | cons x rest => exact List.dropWhile_cons_of_neg (by simp [inWord, hrest x rfl])
  have hblank : ¬isBlank c = true := by simp [hword c]
  rw [List.cons_append, pieces, if_neg hc, if_neg hblank, List.takeWhile_append_of_pos hcs,
    List.dropWhile_append_of_pos hcs, htake, hdrop, List.append_nil]

/-- A term that is written in one of the two ways is the first piece of a query if nothing or a blank follows
it. -/
lemma pieces_spelled (hq : Quotable term) (hs : Spells term text)
    (hrest : ∀ c ∈ rest.head?, isBlank c = true) :
    pieces (text.toList ++ rest) = term.toList :: pieces rest := by
  have hne : term.toList ≠ [] := fun h => hq.nonempty (String.toList_eq_nil_iff.mp h)
  cases hs with
  | quoted =>
    have hlist : ("\"" ++ term ++ "\"").toList ++ rest = '"' :: (term.toList ++ '"' :: rest) := by
      simp
    rw [hlist, pieces_quoted hne hq.unquoted]
  | bare hword => exact pieces_bare hne hq.unquoted hword hrest

/-- The pieces of a text that writes terms are the terms. -/
lemma pieces_of_writesFrom (hq : ∀ term ∈ terms, Quotable term) (h : WritesFrom terms text) :
    pieces text.toList = terms.map String.toList := by
  induction h with
  | nil => exact pieces.eq_1
  | @cons term text gap rest terms hs hgap hsep hrest ih =>
    obtain ⟨hterm, hterms⟩ := List.forall_mem_cons.mp hq
    -- Behind the term stands a blank, or nothing at all.
    have hnext : ∀ c ∈ (gap.toList ++ rest.toList).head?, isBlank c = true := by
      by_cases hnone : gap = ""
      · cases hrest with
        | nil => simp [hnone]
        | cons => exact absurd hnone (hsep (List.cons_ne_nil _ _))
      · obtain ⟨b, blanks, hb⟩ := List.exists_cons_of_ne_nil fun he => hnone (String.toList_eq_nil_iff.mp he)
        rw [hb]
        rintro c ⟨⟩
        exact hgap b (hb ▸ List.mem_cons_self)
    rw [String.toList_append, String.toList_append, List.append_assoc, pieces_spelled hterm hs hnext,
      pieces_blanks hgap, ih hterms]
    rfl

/-- Every list of terms can be written: each of them between quotes, with a space behind it. -/
lemma exists_writes (terms : List String) : ∃ query, Writes terms query := by
  obtain ⟨body, hbody⟩ : ∃ body, WritesFrom terms body := by
    induction terms with
    | nil => exact ⟨"", .nil⟩
    | cons term terms ih =>
      obtain ⟨rest, hrest⟩ := ih
      have hspace : Blank " " := by decide
      exact ⟨_, .cons .quoted hspace (fun _ => by decide) hrest⟩
  exact ⟨_, "", body, by decide, hbody, rfl⟩

/-- Every list of quotable texts can be written as a query, and every query that writes it, with any mix of
quoted and bare terms and of blanks between them, is read as exactly this list. -/
theorem terms_read_back (hq : ∀ term ∈ terms, Quotable term) :
    (∃ query, Writes terms query) ∧ ∀ query, Writes terms query → parse query = terms := by
  refine ⟨exists_writes terms, ?_⟩
  rintro query ⟨before, body, hbefore, hbody, rfl⟩
  have hterm : ∀ term ∈ terms, String.ofList (SearchTerms.term term.toList) = term := by
    intro term hmem
    rw [(hq term hmem).term_eq, String.ofList_toList]
  rw [parse, read, String.toList_append, pieces_blanks hbefore, pieces_of_writesFrom hq hbody, List.map_map,
    List.map_map]
  exact (List.map_congr_left hterm).trans (List.map_id terms)

/-- A quoted term with a tab in it, which stays, a bare one, and a quoted one that could stand bare. -/
theorem places_read_back :
    let terms := ["New\tYork", "10%", "Rome"]
    let query := "  \"New\tYork\"\u3000 10%\n\"Rome\" "
    (∀ term ∈ terms, Quotable term) ∧ Writes terms query ∧ parse query = terms := by
  intro terms query
  have hq : ∀ term ∈ terms, Quotable term := by
    intro term hterm
    simp only [terms, List.mem_cons, List.not_mem_nil, or_false] at hterm
    rcases hterm with rfl | rfl | rfl <;> exact ⟨by decide, by decide, by decide, by decide⟩
  have hwide : Blank "\u3000 " := by decide
  have hline : Blank "\n" := by decide
  have hspace : Blank " " := by decide
  have hbare : Spells "10%" "10%" :=
    .bare fun c hc => Bool.eq_false_iff.mpr (List.any_eq_false.mp (by decide) c hc)
  have hbody : WritesFrom terms "\"New\tYork\"\u3000 10%\n\"Rome\" " :=
    .cons .quoted hwide (fun _ => by decide) <| .cons hbare hline (fun _ => by decide) <|
      .cons .quoted hspace (fun _ => by decide) .nil
  have hwrites : Writes terms query := ⟨"  ", _, by decide, hbody, rfl⟩
  exact ⟨hq, hwrites, (terms_read_back hq).2 query hwrites⟩

end RowQuery.SearchTerms
