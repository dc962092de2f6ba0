import Mathlib.Data.List.Chain
import Mathlib.Data.List.Infix
import RowQuery.Proofs.Text.Trim
import RowQuery.SearchTerms

/-!
The form of search terms. A term that is well formed has no blanks but single spaces between its words. What
squeezing makes of a text between two letters is `Squeezed`, one letter with the blanks behind it at a time;
from it follows that the ends of a term are never blank and that no two blanks of it are neighbours, while a
single blank inside a quoted piece stays the blank that it is, and blanks between quotes become the empty term
(`SearchTerms.well_formed_iff`).
-/

namespace RowQuery

open Text (isBlank trim)

namespace SearchTerms

/-- The ends of a text, if it has any, are not blank. -/
def Trimmed (cs : List Char) : Prop :=
  ∀ c, cs.head? = some c ∨ cs.getLast? = some c → isBlank c = false

/-- A term that is not empty, whose ends are not blank, and in which every run of blanks is one space. -/
structure WellFormed (term : String) : Prop where
  nonempty : term ≠ ""
  trimmed : Trimmed term.toList
  runs : ∀ run, run <:+: term.toList → run ≠ [] → (∀ c ∈ run, isBlank c = true) → run = [' ']

/-- The blanks that stand alone between two characters which are not blank are spaces. -/
def SpacesAlone (cs : List Char) : Prop :=
  ∀ a c b, [a, c, b] <:+: cs → isBlank a = false → isBlank c = true → isBlank b = false → c = ' '

/-- No two neighbours are both blank. -/
def Sparse (cs : List Char) : Prop := cs.IsChain fun a b => isBlank a = false ∨ isBlank b = false

/-- A piece of a query with a character that is not blank, in which only spaces stand alone. -/
def Tidy (piece : List Char) : Prop := (∃ c ∈ piece, isBlank c = false) ∧ SpacesAlone piece

section Blocks

variable {before cs after : List Char} {a b c d : Char}

/-- A block that does not begin with a blank does not reach into the blanks before a text. -/
lemma infix_of_blanks_before (h : ∀ c ∈ before, isBlank c = true) (ha : isBlank a = false)
    {block : List Char} (hi : a :: block <:+: before ++ cs) : a :: block <:+: cs := by
  induction before with
  | nil => exact hi
  | cons c before ih =>
    rcases List.infix_cons_iff.mp hi with hp | hi
    · obtain ⟨rfl, -⟩ := List.cons_prefix_cons.mp hp
      rw [h a (by simp)] at ha
      cases ha
    · exact ih (fun c hc => h c (by simp [hc])) hi

/-- What stands alone in a text with blanks around stands alone in the text. -/
lemma spacesAlone_around (hb : ∀ c ∈ before, isBlank c = true) (ha : ∀ c ∈ after, isBlank c = true) :
    SpacesAlone (before ++ cs ++ after) ↔ SpacesAlone cs := by
  constructor
  · intro h a c b hi
    exact h a c b (hi.trans ⟨before, after, rfl⟩)
  · intro h a c b hi hna hc hnb
    refine h a c b ?_ hna hc hnb
    rw [List.append_assoc] at hi
    have hi := List.reverse_infix.mpr (infix_of_blanks_before hb hna hi)
    rw [List.reverse_append] at hi
    refine List.reverse_infix.mp (infix_of_blanks_before ?_ hnb hi)
    exact fun c hc => ha c (List.mem_reverse.mp hc)

/-- Between two letters only a single blank stands alone. -/
lemma spacesAlone_cons {run : List Char} (hc : isBlank c = false) (hrun : ∀ x ∈ run, isBlank x = true)
    (hd : isBlank d = false) : SpacesAlone (c :: (run ++ d :: cs)) ↔
      (∀ x, run = [x] → x = ' ') ∧ SpacesAlone (d :: cs) := by
  constructor
  · intro h
    refine ⟨?_, fun a x b hi => h a x b (hi.trans ⟨c :: run, [], by simp⟩)⟩
    rintro x rfl
    exact h c x d ⟨[], cs, rfl⟩ hc (hrun x (by simp)) hd
  · rintro ⟨hone, h⟩ a x b hi hna hx hnb
    rcases List.infix_cons_iff.mp hi with hp | hi
    · obtain ⟨-, hp⟩ := List.cons_prefix_cons.mp hp
      rcases run with _ | ⟨y, _ | ⟨z, run⟩⟩
      · obtain ⟨rfl, -⟩ := List.cons_prefix_cons.mp hp
        rw [hd] at hx
        cases hx
      · obtain ⟨rfl, -⟩ := List.cons_prefix_cons.mp hp
        exact hone x rfl
      · obtain ⟨-, hp⟩ := List.cons_prefix_cons.mp hp
        obtain ⟨rfl, -⟩ := List.cons_prefix_cons.mp hp
        rw [hrun b (by simp)] at hnb
        cases hnb
    · exact h a x b (infix_of_blanks_before hrun hna hi) hna hx hnb

end Blocks

/-- What squeezing makes of a text whose ends are not blank: each of its letters keeps its place, with what
the run of blanks behind it becomes. -/
inductive Squeezed : List Char → List Char → Prop where
  | last {c : Char} : isBlank c = false → Squeezed [c] [c]
  | next {c : Char} {run text out : List Char} : isBlank c = false → (∀ x ∈ run, isBlank x = true) →
    Squeezed text out → Squeezed (c :: (run ++ text)) (c :: (squeezeRun run ++ out))

lemma squeezed_squeezeAfter {c : Char} {run cs : List Char} (hc : isBlank c = false)
    (hrun : ∀ x ∈ run, isBlank x = true)
    (hlast : ∀ d, (c :: (run ++ cs)).getLast? = some d → isBlank d = false) :
    Squeezed (c :: (run ++ cs)) (c :: squeezeAfter run cs) := by
  induction cs generalizing c run with
  | nil =>
    -- The text does not end with a blank, so none has been put aside.
    rcases List.eq_nil_or_concat run with rfl | ⟨blanks, d, rfl⟩
    · exact .last hc
    · have hd := hlast d (by simp [List.getLast?_cons])
      rw [hrun d (by simp)] at hd
      cases hd
  | cons d cs ih =>
    rw [squeezeAfter]
    split
    · rename_i hd
      have hmore : ∀ x ∈ run ++ [d], isBlank x = true := by
        simpa [or_imp, forall_and] using ⟨hrun, hd⟩
      have h := ih hc hmore (by simpa using hlast)
      rwa [List.append_assoc] at h
    · rename_i hd
      have hd : isBlank d = false := by simpa using hd
      have hrest : Squeezed (d :: ([] ++ cs)) (d :: squeezeAfter [] cs) := by
        refine ih hd nofun fun e he => hlast e ?_
        rw [← List.cons_append, List.getLast?_append_of_ne_nil _ (List.cons_ne_nil d cs)]
        exact he
      exact .next hc hrun hrest

namespace Squeezed

variable {text out : List Char}

lemma exists_head (h : Squeezed text out) :
    ∃ c text' out', text = c :: text' ∧ out = c :: out' ∧ isBlank c = false := by
  cases h with
  | last hc => exact ⟨_, _, _, rfl, rfl, hc⟩
  | next hc _ _ => exact ⟨_, _, _, rfl, rfl, hc⟩

lemma trimmed (h : Squeezed text out) : Trimmed out := by
  rintro c (hhead | hlast)
  · obtain ⟨d, _, _, -, rfl, hd⟩ := h.exists_head
    cases hhead
    exact hd
  · induction h with
    | last hc =>
      cases hlast
      exact hc
    | next _ _ h ih =>
      obtain ⟨d, _, out, -, rfl, -⟩ := h.exists_head
      rw [← List.cons_append, List.getLast?_append_of_ne_nil _ (List.cons_ne_nil d out)] at hlast
      exact ih hlast

/-- Squeezing leaves no two blanks side by side. -/
lemma sparse (h : Squeezed text out) : Sparse out := by
  induction h with
  | last _ => exact .singleton _
  | @next c run _ _ hc _ h ih =>
    obtain ⟨d, _, _, -, rfl, hd⟩ := h.exists_head
    rcases run with _ | ⟨x, _ | ⟨y, run⟩⟩
    · exact .cons_cons (.inl hc) ih
    · exact .cons_cons (.inl hc) (.cons_cons (.inr hd) ih)
    · exact .cons_cons (.inl hc) (.cons_cons (.inr hd) ih)

/-- The blanks that squeezing leaves are spaces iff those that stood alone were. -/
lemma spaces_iff (h : Squeezed text out) :
    (∀ c ∈ out, isBlank c = true → c = ' ') ↔ SpacesAlone text := by
  induction h with
  | @last c hc =>
    refine iff_of_true ?_ ?_
    · simp [hc]
    · intro a x b hi
      have hle := hi.length_le
      simp at hle
  | @next c run _ out hc hrun h ih =>
    obtain ⟨d, _, _, rfl, -, hd⟩ := h.exists_head
    rw [spacesAlone_cons hc hrun hd, ← ih]
    have hsplit : (∀ x ∈ c :: (squeezeRun run ++ out), isBlank x = true → x = ' ') ↔
        (∀ x ∈ squeezeRun run, isBlank x = true → x = ' ') ∧
          ∀ x ∈ out, isBlank x = true → x = ' ' := by
      simp [hc, or_imp, forall_and]
    rw [hsplit]
    refine and_congr_left fun _ => ?_
    -- Two blanks or more become a space, whatever they are.
    rcases run with _ | ⟨x, _ | ⟨y, run⟩⟩
    · simp [squeezeRun]
    · simp [squeezeRun, hrun x]
    · simp [squeezeRun]

end Squeezed

/-- A term is empty, or what squeezing makes of its piece without the blanks at the ends. -/
lemma squeezed_term (piece : List Char) :
    trim piece = [] ∧ term piece = [] ∨ Squeezed (trim piece) (term piece) := by
  cases ht : trim piece with
  | nil =>
    rw [term, ht]
    exact .inl ⟨rfl, rfl⟩
  | cons c cs =>
    have hhead : (trim piece).head? = some c := by rw [ht]; rfl
    have hc : isBlank c = false := Text.isBlank_of_head?_trim hhead
    have hterm : term piece = c :: squeezeAfter [] cs := by
      rw [term, ht, squeeze, squeezeAfter, hc, if_neg Bool.false_ne_true]
      rfl
    have hlast : ∀ d, (c :: ([] ++ cs)).getLast? = some d → isBlank d = false := by
      intro d hd
      rw [List.nil_append, ← ht] at hd
      exact Text.isBlank_of_getLast?_trim hd
    have hnone : ∀ x ∈ ([] : List Char), isBlank x = true := nofun
    rw [hterm]
    exact .inr (squeezed_squeezeAfter hc hnone hlast)

lemma trimmed_term (piece : List Char) : Trimmed (term piece) := by
  rcases squeezed_term piece with ⟨-, hnil⟩ | h
  · rw [hnil]
    exact fun c hc => by cases hc <;> contradiction
  · exact h.trimmed

lemma sparse_term (piece : List Char) : Sparse (term piece) := by
  rcases squeezed_term piece with ⟨-, hnil⟩ | h
  · rw [hnil]
    exact .nil
  · exact h.sparse

/-- Trimming leaves something of a piece iff not all of it is blank. -/
lemma trim_ne_nil_iff {piece : List Char} :
    trim piece ≠ [] ↔ ∃ c ∈ piece, isBlank c = false := by
  obtain ⟨before, after, hb, ha, hpiece⟩ := Text.exists_blanks_around piece
  constructor
  · intro hne
    obtain ⟨c, cs, hcs⟩ := List.exists_cons_of_ne_nil hne
    have hhead : (trim piece).head? = some c := by rw [hcs]; rfl
    rw [hpiece, hcs]
    exact ⟨c, by simp, Text.isBlank_of_head?_trim hhead⟩
  · rintro ⟨c, hc, hblank⟩ hnil
    rw [hpiece, hnil, List.append_nil] at hc
    rcases List.mem_append.mp hc with hc | hc
    · rw [hb c hc] at hblank
      cases hblank
    · rw [ha c hc] at hblank
      cases hblank

lemma spacesAlone_trim (piece : List Char) : SpacesAlone (trim piece) ↔ SpacesAlone piece := by
  obtain ⟨before, after, hb, ha, hpiece⟩ := Text.exists_blanks_around piece
  conv_rhs => rw [hpiece]
  exact (spacesAlone_around hb ha).symm

/-- Where no two blanks are neighbours, the runs of blanks are single spaces iff the blanks are spaces. -/
lemma runs_iff {cs : List Char} (h : Sparse cs) :
    (∀ run, run <:+: cs → run ≠ [] → (∀ c ∈ run, isBlank c = true) → run = [' ']) ↔
      ∀ c ∈ cs, isBlank c = true → c = ' ' := by
  constructor
  · intro hruns c hc hblank
    have hrun := hruns [c] ((List.singleton_infix_iff c cs).mpr hc) (List.cons_ne_nil c [])
      (by simpa using hblank)
    exact (List.cons.inj hrun).1
  · intro hspaces run hi hne hblank
    rcases run with _ | ⟨a, _ | ⟨b, run⟩⟩
    · exact absurd rfl hne
    · rw [hspaces a (hi.subset (by simp)) (hblank a (by simp))]
    · -- Of two neighbours one is not blank.
      have hpair : Sparse (a :: b :: run) := List.IsChain.infix h hi
      have hab := hpair.rel
      simp_all

/-- A piece of a query makes a well-formed term iff it is not blank and only spaces stand alone in it. -/
lemma wellFormed_term_iff (piece : List Char) :
    WellFormed (String.ofList (term piece)) ↔ Tidy piece := by
  rw [Tidy, ← trim_ne_nil_iff, ← spacesAlone_trim]
  rcases squeezed_term piece with ⟨htrim, hterm⟩ | h
  · rw [hterm, htrim]
    exact iff_of_false (fun h => h.nonempty rfl) fun h => h.1 rfl
  · obtain ⟨c, text, out, htext, hout, -⟩ := h.exists_head
    have hne : String.ofList (term piece) ≠ "" := by
      rw [hout]
      simp
    rw [← h.spaces_iff, ← runs_iff h.sparse]
    constructor
    · intro hw
      refine ⟨by simp [htext], ?_⟩
      simpa using hw.runs
    · rintro ⟨-, hruns⟩
      exact ⟨hne, by simpa using h.trimmed, by simpa using hruns⟩

/-- A quoted run is what stands before the first quote, and that quote is behind it. -/
lemma quotedRun?_eq {cs inner rest : List Char} (h : quotedRun? cs = some (inner, rest)) :
    cs = inner ++ '"' :: rest ∧ '"' ∉ inner := by
  unfold quotedRun? at h
  split at h
  · rename_i c before quote after htake hdrop
    cases h
    have hquote : quote = '"' := by
      have hnot := List.head?_dropWhile_not (· ≠ '"') cs
      rw [hdrop] at hnot
      simpa using hnot
    have hcs := List.takeWhile_append_dropWhile (p := (· ≠ '"')) (l := cs)
    rw [htake, hdrop, hquote] at hcs
    refine ⟨hcs.symm, fun hmem => ?_⟩
    rw [← htake] at hmem
    simpa using List.mem_takeWhile_imp hmem
  · cases h

/-- A text that has no quote is the quoted run before the quote behind it. -/
lemma quotedRun?_append {inner : List Char} (hne : inner ≠ []) (h : '"' ∉ inner) (rest : List Char) :
    quotedRun? (inner ++ '"' :: rest) = some (inner, rest) := by
  have hall : ∀ c ∈ inner, decide (c ≠ '"') = true :=
    fun c hc => decide_eq_true fun hq => h (hq ▸ hc)
  obtain ⟨c, cs, rfl⟩ := List.exists_cons_of_ne_nil hne
  rw [quotedRun?, List.takeWhile_append_of_pos hall, List.dropWhile_append_of_pos hall]
  simp

/-- What stands between the first two quotes of a query is its first piece. -/
lemma pieces_quoted {inner : List Char} (hne : inner ≠ []) (h : '"' ∉ inner) (rest : List Char) :
    pieces ('"' :: (inner ++ '"' :: rest)) = inner :: pieces rest := by
  have hrun := quotedRun?_append hne h rest
  rw [pieces, if_pos rfl]
  split
  · rename_i found behind hfound
    rw [hrun] at hfound
    cases hfound
    rfl
  · rename_i hnone
    rw [hrun] at hnone
    cases hnone

/-- The only term of a query that is one quoted text is made of this text. -/
lemma parse_quoted (inner : List Char) (hne : inner ≠ []) (h : '"' ∉ inner) :
    parse (String.ofList ('"' :: (inner ++ ['"']))) = [String.ofList (term inner)] := by
  rw [parse, read, String.toList_ofList, pieces_quoted hne h, pieces]
  rfl

/-- A word without blanks is tidy. -/
lemma tidy_of_word {c : Char} {cs : List Char} (h : ∀ x ∈ c :: cs, isBlank x = false) :
    Tidy (c :: cs) := by
  refine ⟨⟨c, by simp, h c (by simp)⟩, fun a x b hi _ hx _ => ?_⟩
  rw [h x (hi.subset (by simp))] at hx
  cases hx

/-- A piece of a query is tidy, or it stands between two quotes. -/
lemma mem_pieces {cs piece : List Char} (h : piece ∈ pieces cs) :
    Tidy piece ∨ '"' :: (piece ++ ['"']) <:+: cs ∧ '"' ∉ piece := by
  have word {c : Char} {cs : List Char} (hc : isBlank c = false) :
      Tidy (c :: cs.takeWhile inWord) := by
    refine tidy_of_word fun x hx => ?_
    rcases List.mem_cons.mp hx with rfl | hx
    · exact hc
    · simpa [inWord] using List.mem_takeWhile_imp hx
  have behind {cs rest : List Char} (hs : rest <:+ cs)
      (h : Tidy piece ∨ '"' :: (piece ++ ['"']) <:+: rest ∧ '"' ∉ piece) :
      Tidy piece ∨ '"' :: (piece ++ ['"']) <:+: cs ∧ '"' ∉ piece :=
    h.imp_right fun h => ⟨h.1.trans hs.isInfix, h.2⟩
  fun_induction pieces cs with
  | case1 => cases h
  | case2 cs inner rest hq ih =>
    obtain ⟨rfl, hnone⟩ := quotedRun?_eq hq
    rcases List.mem_cons.mp h with rfl | h
    · exact .inr ⟨⟨[], rest, by simp⟩, hnone⟩
    · exact behind ⟨'"' :: (inner ++ ['"']), by simp⟩ (ih h)
  | case3 cs hq ih =>
    rcases List.mem_cons.mp h with rfl | h
    · exact .inl (word (by decide))
    · exact behind ((List.dropWhile_suffix inWord).trans (List.suffix_cons _ cs)) (ih h)
  | case4 c cs hq hc ih => exact behind (List.suffix_cons c cs) (ih h)
  | case5 c cs hq hc ih =>
    rcases List.mem_cons.mp h with rfl | h
    · exact .inl (word (by simpa using hc))
    · exact behind ((List.dropWhile_suffix inWord).trans (List.suffix_cons _ cs)) (ih h)

/-- The terms of a query are those of its pieces, in order. Whatever the query is, the ends of a term are not
blank and no two blanks of it are neighbours. The term is well formed iff its piece has a character that is
not blank and no blank but spaces stands alone in it, which may fail only for what stands between two
quotes. -/
theorem well_formed_iff (query : String) :
    List.Forall₂ (fun piece term =>
        Trimmed term.toList ∧ Sparse term.toList ∧ (WellFormed term ↔ Tidy piece) ∧
          (Tidy piece ∨ '"' :: (piece ++ ['"']) <:+: query.toList ∧ '"' ∉ piece))
      (pieces query.toList) (parse query) := by
  rw [parse, read, List.map_map, List.forall₂_map_right_iff, List.forall₂_same]
  intro piece hpiece
  have hlist : ((String.ofList ∘ term) piece).toList = term piece := String.toList_ofList
  rw [hlist]
  exact ⟨trimmed_term piece, sparse_term piece, wellFormed_term_iff piece, mem_pieces hpiece⟩

/-- Three blanks between quotes become the empty term, and a tab between quotes stays a tab. -/
theorem quoted_blanks_not_well_formed :
    (parse "\"   \"" = [""] ∧ ¬WellFormed "") ∧
      parse "\"a\tb\"" = ["a\tb"] ∧ ¬WellFormed "a\tb" := by
  refine ⟨⟨?_, fun h => h.nonempty rfl⟩, ?_, fun h => ?_⟩
  · exact (parse_quoted [' ', ' ', ' '] (by decide) (by decide)).trans (by decide)
  · exact (parse_quoted ['a', '\t', 'b'] (by decide) (by decide)).trans (by decide)
  · have htab : ∀ c ∈ ['\t'], isBlank c = true := List.all_eq_true.mp (by decide)
    exact absurd (h.runs ['\t'] ⟨['a'], ['b'], rfl⟩ (List.cons_ne_nil _ _) htab) (by decide)

end SearchTerms

end RowQuery
