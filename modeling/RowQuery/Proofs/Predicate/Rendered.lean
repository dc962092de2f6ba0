import RowQuery.Proofs.Predicate.Combinations
import RowQuery.Proofs.Text.Quoted

/-!
Conditions in text. Where the paths of the comparisons are words, a condition that stands as a part of
another one shows where it ends and what it is, as soon as what follows it may follow a part (`Told`);
so the parts of a group are read one after the other, and with them the whole text (`TextTold`). The one
thing that the text does not show are groups of one: `text_unambiguous`.
-/

namespace RowQuery

open Outcome

lemma Operand.writeValues_cons (x : String) (xs : List String) : writeValues (x :: xs) =
    Text.quote x.toList ++ xs.flatMap fun v => ',' :: ' ' :: Text.quote v.toList := by
  induction xs generalizing x with
  | nil => exact (List.append_nil _).symm
  | cons y ys ih =>
    rw [writeValues, ih, List.flatMap_cons]
    · rfl
    · exact nofun

/-- A list of values shows where it ends. -/
lemma Operand.writeValues_append_inj {xs ys : List String} {r r' : List Char}
    (h : writeValues xs ++ ']' :: r = writeValues ys ++ ']' :: r') : xs = ys ∧ r = r' := by
  have more (xs ys : List String)
      (h : (xs.flatMap fun v => ',' :: ' ' :: Text.quote v.toList) ++ ']' :: r =
        (ys.flatMap fun v => ',' :: ' ' :: Text.quote v.toList) ++ ']' :: r') : xs = ys ∧ r = r' := by
    induction xs generalizing ys with
    | nil =>
      cases ys with
      | nil => exact ⟨rfl, (List.cons.inj h).2⟩
      | cons y ys => exact absurd (List.cons.inj h).1 (by decide)
    | cons x xs ih =>
      cases ys with
      | nil => exact absurd (List.cons.inj h).1 (by decide)
      | cons y ys =>
        rw [List.flatMap_cons, List.flatMap_cons, List.append_assoc, List.append_assoc] at h
        obtain ⟨hxy, hrest⟩ := Text.quote_append_inj (List.cons.inj (List.cons.inj h).2).2
        obtain ⟨rfl, hr⟩ := ih ys hrest
        exact ⟨by rw [String.toList_inj.mp hxy], hr⟩
  cases xs with
  | nil =>
    cases ys with
    | nil => exact ⟨rfl, (List.cons.inj h).2⟩
    | cons y ys =>
      rw [writeValues_cons] at h
      exact absurd (List.cons.inj h).1 (by decide)
  | cons x xs =>
    rw [writeValues_cons, List.append_assoc] at h
    cases ys with
    | nil => exact absurd (List.cons.inj h).1 (by decide)
    | cons y ys =>
      rw [writeValues_cons, List.append_assoc] at h
      obtain ⟨hxy, hrest⟩ := Text.quote_append_inj h
      obtain ⟨rfl, hr⟩ := more xs ys hrest
      exact ⟨by rw [String.toList_inj.mp hxy], hr⟩

/-- An operand shows where it ends. -/
lemma Operand.write_append_inj {x y : Operand} {r r' : List Char} (h : x.write ++ r = y.write ++ r') :
    x = y ∧ r = r' := by
  cases x with
  | scalar x =>
    cases y with
    | scalar y =>
      obtain ⟨hxy, hr⟩ := Text.quote_append_inj h
      exact ⟨by rw [String.toList_inj.mp hxy], hr⟩
    | list ys => exact absurd (List.cons.inj h).1 (by decide)
  | list xs =>
    cases y with
    | scalar y => exact absurd (List.cons.inj h).1 (by decide)
    | list ys =>
      obtain ⟨hxy, hr⟩ := writeValues_append_inj (by simpa [write] using h)
      exact ⟨by rw [hxy], hr⟩

/-- A comparison is told by its name. -/
lemma Comparison.name_inj {a b : Comparison} (h : a.name = b.name) : a = b := by
  have named (c : Comparison) : named? c.name = some c := by cases c <;> decide
  exact Option.some.inj ((named a).symm.trans (h ▸ named b))

/-- Whether the character may stand in the path of a comparison. -/
def Lookup.inPath (c : Char) : Bool := c.isAlphanum || c == '_' || c == '.'

/-- The path of the comparison is a word of letters, digits, underscores and points. -/
def Lookup.Worded (l : Lookup) : Prop := ∀ c ∈ l.path.toList, inPath c = true

instance (l : Lookup) : Decidable l.Worded :=
  decidable_of_iff (l.path.toList.all Lookup.inPath = true) List.all_eq_true

namespace Predicate

/-- A group of the given conditions; one condition alone needs no group. -/
def grouped (make : List Predicate → Predicate) : List Predicate → Predicate
  | [p] => p
  | ps => make ps

mutual

/-- The condition with the child of each group of one in the place of the group. -/
def unwrap : Predicate → Predicate
  | lookup l => lookup l
  | and children => grouped and (unwrapAll children)
  | or children => grouped or (unwrapAll children)
  | not child => not (unwrap child)

/-- The conditions of a list, each of them without groups of one. -/
def unwrapAll : List Predicate → List Predicate
  | [] => []
  | p :: ps => unwrap p :: unwrapAll ps

end

lemma unwrapAll_eq (ps : List Predicate) : unwrapAll ps = ps.map unwrap := by
  induction ps with
  | nil => rfl
  | cons p ps ih => rw [unwrapAll, ih, List.map_cons]

lemma unwrap_and (ps : List Predicate) : (and ps).unwrap = grouped and (ps.map unwrap) := by
  rw [unwrap, unwrapAll_eq]

lemma unwrap_or (ps : List Predicate) : (or ps).unwrap = grouped or (ps.map unwrap) := by
  rw [unwrap, unwrapAll_eq]

lemma truth_grouped_and (s : Schema) (ps : List Predicate) :
    truth s (grouped .and ps) = truth s (.and ps) := by
  unfold grouped
  split
  · rename_i p
    rw [truth_and, truths_singleton]
  · rfl

lemma truth_grouped_or (s : Schema) (ps : List Predicate) :
    truth s (grouped .or ps) = truth s (.or ps) := by
  unfold grouped
  split
  · rename_i p
    rw [truth_or, truths_singleton_someSays]
  · rfl

/-- Groups of one change neither the answers nor the error. -/
lemma truth_unwrap (s : Schema) (p : Predicate) : truth s p.unwrap = truth s p := by
  have children {ps : List Predicate} (ih : ∀ p ∈ ps, truth s p.unwrap = truth s p) :
      truths s (ps.map unwrap) = truths s ps := by
    refine truths_congr ?_
    rw [List.map_map]
    exact List.map_congr_left ih
  induction p with
  | lookup l => rfl
  | and ps ih => rw [unwrap_and, truth_grouped_and, truth_and, truth_and, children ih]
  | or ps ih => rw [unwrap_or, truth_grouped_or, truth_or, truth_or, children ih]
  | not p ih => rw [unwrap, truth_not, truth_not, ih]

/-- The paths of the comparisons are words. -/
def Worded (p : Predicate) : Prop := ∀ l ∈ p.lookups, l.Worded

instance (p : Predicate) : Decidable p.Worded := inferInstanceAs (Decidable (∀ l ∈ p.lookups, _))

lemma worded_and {ps : List Predicate} : (and ps).Worded ↔ ∀ p ∈ ps, p.Worded := by
  simp only [Worded, lookups_and, List.mem_flatMap]
  exact ⟨fun h p hp l hl => h l ⟨p, hp, hl⟩, fun h l ⟨p, hp, hl⟩ => h p hp l hl⟩

lemma worded_or {ps : List Predicate} : (or ps).Worded ↔ ∀ p ∈ ps, p.Worded := by
  simp only [Worded, lookups_or, List.mem_flatMap]
  exact ⟨fun h p hp l hl => h l ⟨p, hp, hl⟩, fun h l ⟨p, hp, hl⟩ => h p hp l hl⟩

/-- The condition in text where it stands as a part of another one. -/
def part (p : Predicate) : List Char := bracketed p.needsBrackets p.write

/-- The two ways to make a group, each with the word that joins the parts. -/
inductive Joins : (List Predicate → Predicate) → List Char → Prop where
  | and : Joins and [' ', 'A', 'N', 'D', ' ']
  | or : Joins or [' ', 'O', 'R', ' ']

/-- What may stand behind a whole condition: nothing, or the bracket that it is closed by. -/
inductive Closes : List Char → Prop where
  | nothing : Closes []
  | bracket (cs : List Char) : Closes (')' :: cs)

/-- What may stand behind a part of a condition: what closes it, or the word before the next part. -/
inductive Follows : List Char → Prop where
  | closes {cs : List Char} : Closes cs → Follows cs
  | joint {make : List Predicate → Predicate} {joint : List Char} (cs : List Char) :
    Joins make joint → Follows (joint ++ cs)

/-- What the beginning of a part tells of the condition. -/
inductive Mark where
  | comparison
  | constant
  | group
  | negation

/-- What the text of a part, with something behind it, begins like. -/
def mark (cs : List Char) : Mark :=
  match cs.dropWhile Lookup.inPath with
  | '(' :: _ => .group
  | ' ' :: '(' :: _ => .negation
  | ' ' :: c :: _ => if c.isLower then .comparison else .constant
  | _ => .constant

/-- The forms of a part. -/
inductive Form : Predicate → List Char → Mark → Prop where
  | comparison (l : Lookup) : Form (lookup l) (write (lookup l)) .comparison
  | always : Form (and []) ['T', 'R', 'U', 'E'] .constant
  | never : Form (or []) ['F', 'A', 'L', 'S', 'E'] .constant
  | group (p : Predicate) : Form p ('(' :: (p.write ++ [')'])) .group
  | negation (p : Predicate) : Form (not p) (['N', 'O', 'T', ' ', '('] ++ p.write ++ [')']) .negation

variable {p : Predicate} {ps : List Predicate} {make make' : List Predicate → Predicate}
  {joint joint' cs r r' : List Char} {m : Mark}

/-- The path of a comparison ends where the first blank stands. -/
lemma dropWhile_path {w : List Char} (hw : ∀ c ∈ w, Lookup.inPath c = true) (r : List Char) :
    (w ++ ' ' :: r).dropWhile Lookup.inPath = ' ' :: r := by
  rw [List.dropWhile_append_of_pos hw]
  exact List.dropWhile_cons_of_neg (by decide)

/-- The form of a part can be told from its beginning. -/
lemma Form.mark_eq (h : Form p cs m) (hp : p.Worded) (hr : Follows r) : mark (cs ++ r) = m := by
  cases h with
  | comparison l =>
    have hw : l.Worded := hp l (by simp [lookups])
    rw [write, mark, List.append_assoc, List.append_assoc, List.cons_append, dropWhile_path hw]
    cases l.comparison <;> rfl
  | always => rcases hr with ⟨_ | _⟩ | ⟨_, _ | _⟩ <;> rfl
  | never => rcases hr with ⟨_ | _⟩ | ⟨_, _ | _⟩ <;> rfl
  | group p => rfl
  | negation p => rfl

/-- A group of one is written like its child. -/
lemma Joins.part_singleton (h : Joins make joint) (p : Predicate) : (make [p]).part = p.part := by
  cases h with
  | and => exact List.append_nil _
  | or => exact List.append_nil _

lemma Joins.unwrap_eq (h : Joins make joint) (ps : List Predicate) :
    (make ps).unwrap = grouped make (ps.map unwrap) := by
  cases h with
  | and => exact unwrap_and ps
  | or => exact unwrap_or ps

lemma Joins.worded_iff (h : Joins make joint) : (make ps).Worded ↔ ∀ p ∈ ps, p.Worded := by
  cases h with
  | and => exact worded_and
  | or => exact worded_or

lemma Joins.part_eq (h : Joins make joint) (p q : Predicate) (ps : List Predicate) :
    (make (p :: q :: ps)).part = '(' :: ((make (p :: q :: ps)).write ++ [')']) := by
  cases h with
  | and => rw [part, needsBrackets]; rfl
  | or => rw [part, needsBrackets]; rfl

/-- Every part has one of the forms, be it that of a condition below groups of one. -/
lemma exists_form (p : Predicate) :
    ∃ q m, Form q p.part m ∧ q.unwrap = p.unwrap ∧ (p.Worded → q.Worded) := by
  have joined {make : List Predicate → Predicate} {joint : List Char} {p : Predicate}
      {ps : List Predicate} (h : Joins make joint)
      (ih : ∀ x ∈ p :: ps, ∃ q m, Form q x.part m ∧ q.unwrap = x.unwrap ∧ (x.Worded → q.Worded)) :
      ∃ q m, Form q (make (p :: ps)).part m ∧ q.unwrap = (make (p :: ps)).unwrap ∧
        ((make (p :: ps)).Worded → q.Worded) := by
    cases ps with
    | nil =>
      obtain ⟨q, m, hform, hunwrap, hq⟩ := ih p List.mem_cons_self
      rw [h.part_singleton, h.unwrap_eq]
      exact ⟨q, m, hform, hunwrap, fun hp => hq (h.worded_iff.mp hp p List.mem_cons_self)⟩
    | cons q ps =>
      rw [h.part_eq]
      exact ⟨_, _, .group _, rfl, id⟩
  induction p with
  | lookup l => exact ⟨_, _, .comparison l, rfl, id⟩
  | and ps ih =>
    cases ps with
    | nil => exact ⟨_, _, .always, rfl, id⟩
    | cons p ps => exact joined .and ih
  | or ps ih =>
    cases ps with
    | nil => exact ⟨_, _, .never, rfl, id⟩
    | cons p ps => exact joined .or ih
  | not p _ => exact ⟨_, _, .negation p, rfl, id⟩

/-- How a condition is put together: a group of its children, or else the only part of itself. -/
structure Parts (p : Predicate) (make : List Predicate → Predicate) (joint : List Char)
    (first : Predicate) (rest : List Predicate) : Prop where
  joins : Joins make joint
  write_eq : p.write = first.part ++ writeRest joint rest
  unwrap_eq : p.unwrap = grouped make ((first :: rest).map unwrap)
  worded : p.Worded → ∀ x ∈ first :: rest, x.Worded

lemma Joins.parts (h : Joins make joint) (p : Predicate) (ps : List Predicate) :
    Parts (make (p :: ps)) make joint p ps where
  joins := h
  write_eq := by
    cases h with
    | and => rw [write, part]
    | or => rw [write, part]
  unwrap_eq := h.unwrap_eq _
  worded := h.worded_iff.mp

lemma Parts.single (h : p.part = p.write) : Parts p and [' ', 'A', 'N', 'D', ' '] p [] where
  joins := .and
  write_eq := by rw [h, writeRest, List.append_nil]
  unwrap_eq := rfl
  worded hp x hx := List.mem_singleton.mp hx ▸ hp

lemma exists_parts (p : Predicate) : ∃ make joint first rest, Parts p make joint first rest := by
  cases p with
  | lookup l => exact ⟨_, _, _, _, .single rfl⟩
  | and ps =>
    cases ps with
    | nil => exact ⟨_, _, _, _, .single rfl⟩
    | cons p ps => exact ⟨_, _, _, _, Joins.and.parts p ps⟩
  | or ps =>
    cases ps with
    | nil => exact ⟨_, _, _, _, .single rfl⟩
    | cons p ps => exact ⟨_, _, _, _, Joins.or.parts p ps⟩
  | not p => exact ⟨_, _, _, _, .single rfl⟩

/-- A part, with what follows it, tells the condition but for groups of one. -/
def Told (p : Predicate) : Prop := ∀ (q : Predicate) (r r' : List Char), q.Worded → Follows r →
  Follows r' → p.part ++ r = q.part ++ r' → p.unwrap = q.unwrap ∧ r = r'

/-- A whole text, with what closes it, tells the condition but for groups of one. -/
def TextTold (p : Predicate) : Prop := ∀ (q : Predicate) (r r' : List Char), q.Worded → Closes r →
  Closes r' → p.write ++ r = q.write ++ r' → p.unwrap = q.unwrap ∧ r = r'

lemma writeRest_cons (joint : List Char) (p : Predicate) (ps : List Predicate) (r : List Char) :
    writeRest joint (p :: ps) ++ r = joint ++ (p.part ++ (writeRest joint ps ++ r)) := by
  rw [writeRest, List.append_assoc, List.append_assoc]
  rfl

lemma Joins.follows (h : Joins make joint) (hr : Closes r) (ps : List Predicate) :
    Follows (writeRest joint ps ++ r) := by
  cases ps with
  | nil => exact .closes hr
  | cons p ps =>
    rw [writeRest_cons]
    exact .joint _ h

/-- What closes a condition is not another part of it. -/
lemma Joins.append_ne (h : Joins make joint) (hr : Closes r) (cs : List Char) : joint ++ cs ≠ r := by
  cases h <;> cases hr <;> simp

/-- The parts behind the first one are told if each of them is. -/
lemma rest_told {qs : List Predicate} (hj : Joins make joint) (hj' : Joins make' joint')
    (hps : ∀ p ∈ ps, p.Told) (hqs : ∀ q ∈ qs, q.Worded) (hr : Closes r) (hr' : Closes r')
    (h : writeRest joint ps ++ r = writeRest joint' qs ++ r') :
    ps.map unwrap = qs.map unwrap ∧ r = r' ∧ (ps = [] ∨ make = make') := by
  induction ps generalizing qs with
  | nil =>
    cases qs with
    | nil => exact ⟨rfl, h, .inl rfl⟩
    | cons q qs =>
      rw [writeRest_cons] at h
      exact absurd h.symm (hj'.append_ne hr _)
  | cons p ps ih =>
    rw [writeRest_cons] at h
    cases qs with
    | nil => exact absurd h (hj.append_ne hr' _)
    | cons q qs =>
      rw [writeRest_cons] at h
      have same : joint = joint' ∧ make = make' := by
        cases hj <;> cases hj' <;> simp_all
      obtain ⟨rfl, rfl⟩ := same
      obtain ⟨hpq, hrest⟩ := hps p List.mem_cons_self q _ _ (hqs q List.mem_cons_self)
        (hj.follows hr ps) (hj'.follows hr' qs) (List.append_cancel_left h)
      obtain ⟨hmap, hr, -⟩ := ih (fun p hp => hps p (List.mem_cons_of_mem _ hp))
        (fun q hq => hqs q (List.mem_cons_of_mem _ hq)) hrest
      exact ⟨by rw [List.map_cons, List.map_cons, hpq, hmap], hr, .inr rfl⟩

/-- A text is told if its parts are. -/
lemma Parts.textTold {first : Predicate} {rest : List Predicate} (h : Parts p make joint first rest)
    (hparts : ∀ x ∈ first :: rest, x.Told) : p.TextTold := by
  intro q r r' hq hr hr' heq
  obtain ⟨make', joint', first', rest', hparts'⟩ := exists_parts q
  have hworded := hparts'.worded hq
  rw [h.write_eq, hparts'.write_eq, List.append_assoc, List.append_assoc] at heq
  obtain ⟨hfirst, heq⟩ := hparts first List.mem_cons_self first' _ _
    (hworded first' List.mem_cons_self) (h.joins.follows hr rest) (hparts'.joins.follows hr' rest') heq
  obtain ⟨hrest, hr, hmake⟩ := rest_told h.joins hparts'.joins
    (fun x hx => hparts x (List.mem_cons_of_mem _ hx))
    (fun x hx => hworded x (List.mem_cons_of_mem _ hx)) hr hr' heq
  refine ⟨?_, hr⟩
  rw [h.unwrap_eq, hparts'.unwrap_eq, List.map_cons, List.map_cons, hfirst, ← hrest]
  obtain rfl | rfl := hmake
  · rfl
  · rfl

/-- A part is told if those of its form are. -/
lemma Form.told (h : Form p p.part m) (hp : p.Worded)
    (hsame : ∀ (q : Predicate) (cs r r' : List Char), Form q cs m → q.Worded → Follows r →
      Follows r' → p.part ++ r = cs ++ r' → p.unwrap = q.unwrap ∧ r = r') : p.Told := by
  intro q r r' hq hr hr' heq
  obtain ⟨q', m', hform, hunwrap, hworded⟩ := exists_form q
  have hm : m' = m := by
    rw [← hform.mark_eq (hworded hq) hr', ← heq, h.mark_eq hp hr]
  subst hm
  rw [← hunwrap]
  exact hsame q' _ r r' hform (hworded hq) hr hr' heq

lemma told_lookup {l : Lookup} (hl : (lookup l).Worded) : (lookup l).Told := by
  refine Form.told (.comparison l) hl fun q cs r r' hform hq _ _ heq => ?_
  cases hform with | comparison k =>
  have word (k : Lookup) (h : (lookup k).Worded) : ∀ c ∈ k.path.toList, Lookup.inPath c = true :=
    h k (by simp [lookups])
  have name (c : Comparison) : ∀ x ∈ c.name.toList, x.isLower = true :=
    List.all_eq_true.mp (by cases c <;> decide)
  change write (lookup l) ++ r = write (lookup k) ++ r' at heq
  simp only [write, List.append_assoc, List.cons_append] at heq
  obtain ⟨hpath, heq⟩ := Text.append_inj_of_block (word l hl) (word k hq) (by rintro _ ⟨⟩; rfl)
    (by rintro _ ⟨⟩; rfl) heq
  obtain ⟨hname, heq⟩ := Text.append_inj_of_block (name l.comparison) (name k.comparison)
    (by simp) (by simp) (List.cons.inj heq).2
  obtain ⟨hoperand, hr⟩ := Operand.write_append_inj (List.cons.inj heq).2
  obtain ⟨path, comparison, operand⟩ := l
  obtain ⟨path', comparison', operand'⟩ := k
  obtain rfl := String.toList_inj.mp hpath
  obtain rfl := Comparison.name_inj (String.toList_inj.mp hname)
  obtain rfl : operand = operand' := hoperand
  exact ⟨rfl, hr⟩

lemma told_always : (and []).Told := by
  refine Form.told .always (by simp [Worded, lookups, lookupsOf]) fun q cs r r' hform _ _ _ heq => ?_
  cases hform with
  | always => exact ⟨rfl, List.append_cancel_left heq⟩
  | never => exact absurd (List.cons.inj heq).1 (by decide)

lemma told_never : (or []).Told := by
  refine Form.told .never (by simp [Worded, lookups, lookupsOf]) fun q cs r r' hform _ _ _ heq => ?_
  cases hform with
  | always => exact absurd (List.cons.inj heq).1 (by decide)
  | never => exact ⟨rfl, List.append_cancel_left heq⟩

/-- What stands in brackets is told if its text is. -/
lemma TextTold.told (h : p.TextTold) (hp : p.Worded) (hpart : p.part = '(' :: (p.write ++ [')'])) :
    p.Told := by
  have hform : Form p p.part .group := by
    rw [hpart]
    exact .group p
  refine hform.told hp fun q cs r r' hform hq _ _ heq => ?_
  cases hform
  rw [hpart] at heq
  obtain ⟨hpq, hr⟩ := h q (')' :: r) (')' :: r') hq (.bracket r) (.bracket r') (by simpa using heq)
  exact ⟨hpq, (List.cons.inj hr).2⟩

/-- A negation is told if the text of what it negates is. -/
lemma TextTold.told_not (h : p.TextTold) (hp : p.Worded) : (not p).Told := by
  refine Form.told (.negation p) hp fun q cs r r' hform hq _ _ heq => ?_
  cases hform with | negation q =>
  obtain ⟨hpq, hr⟩ := h q (')' :: r) (')' :: r') hq (.bracket r) (.bracket r')
    (by simpa [part, bracketed, needsBrackets, write] using heq)
  exact ⟨by rw [unwrap, unwrap, hpq], (List.cons.inj hr).2⟩

/-- A group is told if its children are. -/
lemma Joins.told (h : Joins make joint) (hp : (make (p :: ps)).Worded) (hps : ∀ x ∈ p :: ps, x.Told) :
    (make (p :: ps)).Told ∧ (make (p :: ps)).TextTold := by
  have htext : (make (p :: ps)).TextTold := (h.parts p ps).textTold hps
  refine ⟨?_, htext⟩
  cases ps with
  | nil =>
    intro q r r'
    rw [h.part_singleton, h.unwrap_eq]
    exact hps p List.mem_cons_self q r r'
  | cons q ps => exact htext.told hp (h.part_eq p q ps)

/-- Every condition whose paths are words is told by its part and by its text. -/
lemma told (hp : p.Worded) : p.Told ∧ p.TextTold := by
  have single {p : Predicate} (h : p.part = p.write) (ht : p.Told) : p.Told ∧ p.TextTold :=
    ⟨ht, (Parts.single h).textTold (by simpa using ht)⟩
  induction p with
  | lookup l => exact single rfl (told_lookup hp)
  | and ps ih =>
    cases ps with
    | nil => exact single rfl told_always
    | cons p ps => exact Joins.and.told hp fun x hx => (ih x hx (worded_and.mp hp x hx)).1
  | or ps ih =>
    cases ps with
    | nil => exact single rfl told_never
    | cons p ps => exact Joins.or.told hp fun x hx => (ih x hx (worded_or.mp hp x hx)).1
  | not p ih => exact single rfl ((ih hp).2.told_not hp)

/-- Conditions whose paths are words and that have one text are the same but for groups of one. So for
each table both cannot be made ready for the same reason, or both answer alike for every row. -/
theorem text_unambiguous {p q : Predicate} (hp : p.Worded) (hq : q.Worded) (h : p.text = q.text) :
    p.unwrap = q.unwrap ∧ ∀ s : Schema,
      (∃ e, RowTest.ofPredicate s p = .error e ∧ RowTest.ofPredicate s q = .error e) ∨
      ∃ test test', RowTest.ofPredicate s p = .ok test ∧ RowTest.ofPredicate s q = .ok test' ∧
        ∀ row, test.holds row = test'.holds row := by
  have htext : p.write = q.write := String.ofList_inj.mp h
  have hunwrap : p.unwrap = q.unwrap := ((told hp).2 q [] [] hq .nothing .nothing (by rw [htext])).1
  refine ⟨hunwrap, fun s => ?_⟩
  have same : truth s p = truth s q := by rw [← truth_unwrap s p, hunwrap, truth_unwrap]
  cases hp : RowTest.ofPredicate s p with
  | error e =>
    rw [truth, truth, hp] at same
    exact .inl ⟨e, rfl, map_error_iff.mp same.symm⟩
  | ok test =>
    rw [truth, truth, hp] at same
    obtain ⟨test', htest', hrow⟩ := map_ok_iff.mp same.symm
    exact .inr ⟨test, test', rfl, htest', fun row => (congrFun hrow row).symm⟩

/-- The same negation, with the first or with the second comparison in a group of its own. -/
theorem wrapped_text_unambiguous :
    let name : Predicate := .lookup ⟨"name", .contains, .scalar "\"The\nHague\" AND"⟩
    let size : Predicate := .lookup ⟨"size_2020", .oneOf, .list ["1", ")"]⟩
    let p : Predicate := .not (.or [.and [name], size])
    let q : Predicate := .not (.or [name, .or [.and [size]]])
    p ≠ q ∧ p.Worded ∧ q.Worded ∧ p.text = q.text ∧ p.unwrap = q.unwrap ∧ ∀ s : Schema,
      (∃ e, RowTest.ofPredicate s p = .error e ∧ RowTest.ofPredicate s q = .error e) ∨
      ∃ test test', RowTest.ofPredicate s p = .ok test ∧ RowTest.ofPredicate s q = .ok test' ∧
        ∀ row, test.holds row = test'.holds row := by
  intro name size p q
  have hp : p.Worded := by decide
  have hq : q.Worded := by decide
  have h : p.text = q.text := rfl
  exact ⟨by simp [p, q, name, size], hp, hq, h, text_unambiguous hp hq h⟩

end Predicate

end RowQuery
