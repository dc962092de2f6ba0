import Mathlib.Algebra.GroupWithZero.Nat
import Mathlib.Data.Finset.Card
import RowQuery.Proofs.Params

/-!
Parameters as an ordered multimap. Whichever pairs are pushed, and in whatever order, each name has one
entry at the place of its first pair, with the values of all its pairs: `ofPairs_multimap`. One more pair is
one more value (`total_push`), so no pair is lost.
-/

namespace RowQuery.Params

/-- How many values there are under all names. -/
def total (p : Params) : Nat := (p.entries.map fun entry => entry.2.length).sum

/-- A pair that is pushed is one more value. -/
lemma total_push (p : Params) (name value : String) : (p.push name value).total = p.total + 1 := by
  obtain ⟨entries⟩ := p
  rw [total, total, push]
  induction entries with
  | nil => rfl
  | cons entry entries ih =>
    obtain ⟨n, values⟩ := entry
    rw [pushEntry]
    split_ifs with hn
    · simp only [List.map_cons, List.sum_cons, List.length_append, List.length_singleton]
      omega
    · simp only [List.map_cons, List.sum_cons] at ih ⊢
      omega

/-- There are as many values as pairs. -/
lemma total_ofPairs (pairs : List (String × String)) : (ofPairs pairs).total = pairs.length := by
  induction pairs using List.reverseRecOn with
  | nil => rfl
  | append_singleton pairs x ih =>
    rw [ofPairs_concat, total_push, ih, List.length_append, List.length_singleton]

/-- A name is given iff it is one of the names. -/
lemma contains_iff {p : Params} {name : String} : p.contains name = true ↔ name ∈ p.names := by
  rw [contains, List.any_eq_true, names, List.mem_map]
  exact exists_congr fun entry => and_congr_right fun _ => beq_iff_eq

/-- The parameters of a sequence of pairs, which may be given one by one. The names are those of the pairs,
each once and in the order in which they first appear. Under a name stand the values of its pairs in their
order, the last of which is the value of the name. The entries are the names with these values; there are as
many of them as different names, and they hold as many values as there are pairs. -/
theorem ofPairs_multimap (pairs : List (String × String)) :
    (∀ name value, (ofPairs pairs).push name value = ofPairs (pairs ++ [(name, value)])) ∧
    (ofPairs pairs).names = (pairs.map Prod.fst).eraseDups ∧ (ofPairs pairs).names.Nodup ∧
    (∀ name,
      (ofPairs pairs).getAll name = (pairs.filter fun pair => pair.1 == name).map Prod.snd ∧
      (ofPairs pairs).get? name = ((pairs.filter fun pair => pair.1 == name).map Prod.snd).getLast? ∧
      ((ofPairs pairs).contains name = true ↔ ∃ value, (name, value) ∈ pairs)) ∧
    (ofPairs pairs).entries =
      (ofPairs pairs).names.map (fun name => (name, (ofPairs pairs).getAll name)) ∧
    (ofPairs pairs).entries.length = (pairs.map Prod.fst).toFinset.card ∧
    ((ofPairs pairs).entries.map fun entry => entry.2.length).sum = pairs.length := by
  have hnames := names_ofPairs pairs
  have hnodup := nodup_names_ofPairs pairs
  refine ⟨fun name value => (ofPairs_concat pairs (name, value)).symm, hnames, hnodup,
    fun name => ⟨getAll_ofPairs pairs name, ?_, ?_⟩, entries_eq hnodup, ?_, total_ofPairs pairs⟩
  · rw [get?, getAll_ofPairs]
  · rw [contains_iff, hnames, List.mem_eraseDups, List.mem_map]
    constructor
    · rintro ⟨⟨n, value⟩, hpair, rfl⟩
      exact ⟨value, hpair⟩
    · rintro ⟨value, hpair⟩
      exact ⟨_, hpair, rfl⟩
  · have hset : (pairs.map Prod.fst).toFinset = (ofPairs pairs).names.toFinset := by
      ext name
      rw [List.mem_toFinset, List.mem_toFinset, hnames, List.mem_eraseDups]
    rw [hset, List.toFinset_card_of_nodup hnodup, names, List.length_map]

end RowQuery.Params
