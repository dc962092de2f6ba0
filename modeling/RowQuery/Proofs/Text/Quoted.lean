import Mathlib.Data.List.TakeDrop
import Mathlib.Tactic.Lemma
import RowQuery.Text.Quoted

/-!
Quoted texts show where they end. What is written for a character inside quotes is no beginning of what
is written for another one, and it does not begin with a quote, so a quoted text with anything behind it
is read in one way: `quote_append_inj`.
-/

namespace RowQuery.Text

/-- A block of characters of one sort ends where the first of another sort stands. -/
lemma append_inj_of_block {p : Char → Bool} {w w' r r' : List Char} (hw : ∀ c ∈ w, p c = true)
    (hw' : ∀ c ∈ w', p c = true) (hr : ∀ c ∈ r.head?, p c = false) (hr' : ∀ c ∈ r'.head?, p c = false)
    (h : w ++ r = w' ++ r') : w = w' ∧ r = r' := by
  have ends {s : List Char} (hs : ∀ c ∈ s.head?, p c = false) : s.takeWhile p = [] := by
    cases s with
    | nil => rfl
    | cons c cs => rw [List.takeWhile_cons_of_neg (by simp [hs c rfl])]
  have htake := congrArg (List.takeWhile p) h
  rw [List.takeWhile_append_of_pos hw, List.takeWhile_append_of_pos hw', ends hr, ends hr',
    List.append_nil, List.append_nil] at htake
  subst htake
  exact ⟨rfl, List.append_cancel_left h⟩

/-- The last hexadecimal digit of a number stands behind the digits of its sixteenth part. -/
lemma toDigits_sixteen (n : Nat) : Nat.toDigits 16 n =
    if n < 16 then [n.digitChar] else Nat.toDigits 16 (n / 16) ++ [(n % 16).digitChar] :=
  Nat.toDigits_eq_if (by decide)

lemma digitChar_inj : ∀ m < 16, ∀ n < 16, m.digitChar = n.digitChar → m = n := by decide

/-- Hexadecimal digits tell numbers apart. -/
lemma toDigits_sixteen_inj {m n : Nat} (h : Nat.toDigits 16 m = Nat.toDigits 16 n) : m = n := by
  induction m using Nat.strongRecOn generalizing n with
  | ind m ih =>
    rw [toDigits_sixteen m, toDigits_sixteen n] at h
    split at h
    · rename_i hm
      split at h
      · rename_i hn
        exact digitChar_inj m hm n hn (List.singleton_inj.mp h)
      · exact absurd (List.append_eq_singleton_iff.mp h.symm) (by simp [Nat.toDigits_ne_nil])
    · rename_i hm
      split at h
      · exact absurd (List.append_eq_singleton_iff.mp h) (by simp [Nat.toDigits_ne_nil])
      · obtain ⟨hhigh, hlow⟩ := List.append_inj' h rfl
        have hdiv := ih (m / 16) (by omega) hhigh
        have hmod := digitChar_inj _ (Nat.mod_lt m (by decide)) _ (Nat.mod_lt n (by decide))
          (List.singleton_inj.mp hlow)
        omega

/-- A hexadecimal digit is no brace. -/
lemma ne_brace_of_mem_toDigits {n : Nat} {c : Char} (h : c ∈ Nat.toDigits 16 n) : c ≠ '\x7d' := by
  induction n using Nat.strongRecOn with
  | ind n ih =>
    rw [toDigits_sixteen] at h
    split at h
    · rw [List.mem_singleton.mp h]
      exact Nat.digitChar_ne _ rfl
    · rcases List.mem_append.mp h with h | h
      · exact ih (n / 16) (by omega) h
      · rw [List.mem_singleton.mp h]
        exact Nat.digitChar_ne _ rfl

/-- The characters that have a letter, each with its letter. -/
def quoteLetters : List (Char × Char) :=
  [('\x00', '0'), ('\t', 't'), ('\r', 'r'), ('\n', 'n'), ('\\', '\\'), ('"', '"')]

/-- The written forms of a character inside quotes. -/
inductive QuotedAs (c : Char) : List Char → Prop where
  | letter {letter : Char} : (c, letter) ∈ quoteLetters → QuotedAs c ['\\', letter]
  | code : QuotedAs c (['\\', 'u', '\x7b'] ++ Nat.toDigits 16 c.toNat ++ ['\x7d'])
  | plain : c ≠ '\\' → c ≠ '"' → QuotedAs c [c]

lemma quotedAs_quoteChar (c : Char) : QuotedAs c (quoteChar c) := by
  rw [quoteChar]
  cases hc : quoteLetter? c with
  | some letter =>
    refine .letter ?_
    unfold quoteLetter? at hc
    split at hc <;> cases hc <;> simp [quoteLetters]
  | none =>
    show QuotedAs c (if hidden.contains c then _ else _)
    split
    · exact .code
    · refine .plain ?_ ?_ <;> rintro rfl <;> cases hc

/-- The written form of a character does not begin with a quote. -/
lemma QuotedAs.ne_quote {c : Char} {cs r r' : List Char} (h : QuotedAs c cs) :
    cs ++ r ≠ '"' :: r' := by
  cases h with
  | letter _ => simp
  | code => simp
  | plain _ hq => simp [hq]

/-- Written forms of characters show where they end and what they stand for. -/
lemma QuotedAs.append_inj {c d : Char} {cs ds r r' : List Char} (hc : QuotedAs c cs)
    (hd : QuotedAs d ds) (h : cs ++ r = ds ++ r') : c = d ∧ r = r' := by
  have letters : ∀ x ∈ quoteLetters, x.2 ≠ 'u' ∧ ∀ y ∈ quoteLetters, x.2 = y.2 → x.1 = y.1 := by
    decide
  cases hc with
  | letter hc =>
    cases hd with
    | letter hd =>
      obtain ⟨hl, hr⟩ := List.cons.inj (List.cons.inj h).2
      exact ⟨(letters _ hc).2 _ hd hl, hr⟩
    | code => exact absurd (List.cons.inj (List.cons.inj h).2).1 (letters _ hc).1
    | plain hb _ => exact absurd (List.cons.inj h).1.symm hb
  | code =>
    cases hd with
    | letter hd => exact absurd (List.cons.inj (List.cons.inj h).2).1.symm (letters _ hd).1
    | code =>
      have hdigits : Nat.toDigits 16 c.toNat ++ '\x7d' :: r = Nat.toDigits 16 d.toNat ++ '\x7d' :: r' := by
        simpa using h
      have digit {n : Nat} : ∀ x ∈ Nat.toDigits 16 n, (x != '\x7d') = true :=
        fun x hx => by simpa using ne_brace_of_mem_toDigits hx
      obtain ⟨hn, hr⟩ := append_inj_of_block digit digit (by simp) (by simp) hdigits
      exact ⟨Char.toNat_inj.mp (toDigits_sixteen_inj hn), (List.cons.inj hr).2⟩
    | plain hb _ => exact absurd (List.cons.inj h).1.symm hb
  | plain hb _ =>
    cases hd with
    | letter _ => exact absurd (List.cons.inj h).1 hb
    | code => exact absurd (List.cons.inj h).1 hb
    | plain _ _ => exact List.cons.inj h

/-- A quoted text shows where it ends, and the text can be told from it. -/
lemma quote_append_inj {cs ds r r' : List Char} (h : quote cs ++ r = quote ds ++ r') :
    cs = ds ∧ r = r' := by
  have inside (cs ds : List Char)
      (h : cs.flatMap quoteChar ++ '"' :: r = ds.flatMap quoteChar ++ '"' :: r') :
      cs = ds ∧ r = r' := by
    induction cs generalizing ds with
    | nil =>
      cases ds with
      | nil => exact ⟨rfl, (List.cons.inj h).2⟩
      | cons d ds =>
        rw [List.flatMap_cons, List.append_assoc] at h
        exact absurd h.symm (quotedAs_quoteChar d).ne_quote
    | cons c cs ih =>
      cases ds with
      | nil =>
        rw [List.flatMap_cons, List.append_assoc] at h
        exact absurd h (quotedAs_quoteChar c).ne_quote
      | cons d ds =>
        rw [List.flatMap_cons, List.flatMap_cons, List.append_assoc, List.append_assoc] at h
        obtain ⟨rfl, hrest⟩ := (quotedAs_quoteChar c).append_inj (quotedAs_quoteChar d) h
        obtain ⟨rfl, hr⟩ := ih ds hrest
        exact ⟨rfl, hr⟩
  exact inside cs ds (by simpa [quote] using h)

end RowQuery.Text
