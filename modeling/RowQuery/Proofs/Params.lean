import Mathlib.Data.List.Induction
import Mathlib.Data.List.Nodup
import Mathlib.Tactic.Lemma
import RowQuery.Params

/-!
The parameters that a sequence of pairs makes. They are the pairs by name, the names in the order in which
they first appear and the values of a name in the order in which they are given: `occurrences_ofPairs`. So
grouping neither loses nor adds a pair.
-/

namespace RowQuery

/-- Of repeated elements the first one stays, so one that comes last stays if it is new. -/
lemma eraseDups_concat {α : Type} [BEq α] [LawfulBEq α] (xs : List α) (x : α) [Decidable (x ∈ xs)] :
    (xs ++ [x]).eraseDups = if x ∈ xs then xs.eraseDups else xs.eraseDups ++ [x] := by
  rw [List.eraseDups_append]
  split_ifs with hx
  · simp [List.removeAll, hx]
  · simp [List.removeAll, hx, List.eraseDups_cons]

namespace Params

/-- One more value comes last among the values of its name. -/
lemma getAll_push (p : Params) (n value name : String) :
    (p.push n value).getAll name =
      if n = name then p.getAll name ++ [value] else p.getAll name := by
  obtain ⟨entries⟩ := p
  simp only [push, getAll]
  induction entries with
  | nil =>
    by_cases hn : n = name <;> simp [pushEntry, hn]
  | cons entry entries ih =>
    obtain ⟨m, values⟩ := entry
    rw [pushEntry]
    by_cases hm : m = n
    · subst hm
      by_cases hn : m = name <;> simp [hn]
    · by_cases hn : m = name
      · subst hn
        simp [hm, Ne.symm hm]
      · simpa [hm, hn] using ih

/-- A name that there was stays where it was. -/
lemma names_push_of_mem {p : Params} {n : String} (hn : n ∈ p.names) (value : String) :
    (p.push n value).names = p.names := by
  obtain ⟨entries⟩ := p
  simp only [push, names] at hn ⊢
  induction entries with
  | nil => cases hn
  | cons entry entries ih =>
    obtain ⟨m, values⟩ := entry
    rw [pushEntry]
    by_cases hm : m = n
    · rw [if_pos hm, List.map_cons, List.map_cons]
    · rw [if_neg hm, List.map_cons, List.map_cons, ih (List.mem_of_ne_of_mem (Ne.symm hm) hn)]

/-- A new name comes last. -/
lemma names_push_of_not_mem {p : Params} {n : String} (hn : n ∉ p.names) (value : String) :
    (p.push n value).names = p.names ++ [n] := by
  obtain ⟨entries⟩ := p
  simp only [push, names] at hn ⊢
  induction entries with
  | nil => rfl
  | cons entry entries ih =>
    obtain ⟨m, values⟩ := entry
    obtain ⟨hm, hn⟩ := List.ne_and_not_mem_of_not_mem_cons hn
    rw [pushEntry, if_neg (Ne.symm hm), List.map_cons, List.map_cons, ih hn, List.cons_append]

lemma ofPairs_concat (pairs : List (String × String)) (x : String × String) :
    ofPairs (pairs ++ [x]) = (ofPairs pairs).push x.1 x.2 := List.foldl_concat ..

/-- The values of a name are those of the pairs of this name. -/
lemma getAll_ofPairs (pairs : List (String × String)) (name : String) :
    (ofPairs pairs).getAll name = (pairs.filter fun pair => pair.1 == name).map Prod.snd := by
  induction pairs using List.reverseRecOn with
  | nil => rfl
  | append_singleton pairs x ih =>
    rw [ofPairs_concat, getAll_push, ih, List.filter_append, List.map_append]
    by_cases hn : x.1 = name <;> simp [hn]

/-- The names stand in the order in which they first appear. -/
lemma names_ofPairs (pairs : List (String × String)) :
    (ofPairs pairs).names = (pairs.map Prod.fst).eraseDups := by
  induction pairs using List.reverseRecOn with
  | nil => rfl
  | append_singleton pairs x ih =>
    rw [ofPairs_concat, List.map_append, List.map_singleton, eraseDups_concat]
    split_ifs with hn
    · rw [names_push_of_mem (by rwa [ih, List.mem_eraseDups]), ih]
    · rw [names_push_of_not_mem (by rwa [ih, List.mem_eraseDups]), ih]

/-- No name has two entries. -/
lemma nodup_names_ofPairs (pairs : List (String × String)) : (ofPairs pairs).names.Nodup := by
  induction pairs using List.reverseRecOn with
  | nil => exact List.nodup_nil
  | append_singleton pairs x ih =>
    rw [ofPairs_concat]
    by_cases hn : x.1 ∈ (ofPairs pairs).names
    · rwa [names_push_of_mem hn]
    · rw [names_push_of_not_mem hn]
      exact ih.append (List.nodup_singleton x.1) (List.disjoint_singleton.mpr hn)

/-- Where no name has two entries, an entry holds the values of its name. -/
lemma entries_eq {p : Params} (h : p.names.Nodup) :
    p.entries = p.names.map fun name => (name, p.getAll name) := by
  rw [names, List.map_map]
  refine (List.map_id p.entries).symm.trans (List.map_congr_left fun entry hentry => ?_)
  have hfind : p.entries.find? (fun x => x.1 == entry.1) = some entry := by
    cases hf : p.entries.find? fun x => x.1 == entry.1 with
    | none => simpa using List.find?_eq_none.mp hf entry hentry
    | some found =>
      have hname : found.1 = entry.1 := by simpa using List.find?_some hf
      rw [List.inj_on_of_nodup_map h (List.mem_of_find?_eq_some hf) hentry hname]
  simp [getAll, hfind]

/-- Pairs by name: the names in the order in which they first appear, the pairs of each name in the order
in which they are given. -/
def grouped (pairs : List (String × String)) : List (String × String) :=
  (pairs.map Prod.fst).eraseDups.flatMap fun name => pairs.filter fun pair => pair.1 == name

/-- The occurrences are the pairs by name. -/
lemma occurrences_ofPairs (pairs : List (String × String)) :
    (ofPairs pairs).occurrences = grouped pairs := by
  rw [occurrences, entries_eq (nodup_names_ofPairs pairs), names_ofPairs, List.flatMap_map, grouped]
  refine congrArg (List.flatMap · _) (funext fun name => ?_)
  show ((ofPairs pairs).getAll name).map (name, ·) = _
  rw [getAll_ofPairs, List.map_map]
  refine (List.map_congr_left fun pair hpair => ?_).trans (List.map_id _)
  have hname : pair.1 = name := by simpa using (List.mem_filter.mp hpair).2
  rw [← hname]
  rfl

/-- Grouping neither loses nor adds a pair. -/
lemma mem_occurrences_ofPairs {pairs : List (String × String)} {x : String × String} :
    x ∈ (ofPairs pairs).occurrences ↔ x ∈ pairs := by
  rw [occurrences_ofPairs, grouped]
  simp only [List.mem_flatMap, List.mem_eraseDups, List.mem_map, List.mem_filter, beq_iff_eq]
  constructor
  · rintro ⟨_, -, hx, -⟩
    exact hx
  · intro hx
    exact ⟨x.1, ⟨x, hx, rfl⟩, hx, rfl⟩

/-- The parameters but those of the given names. -/
def without (p : Params) (names : List String) : Params :=
  ⟨p.entries.filter fun entry => !names.contains entry.1⟩

variable {p : Params} {names : List String} {name : String}

lemma occurrences_without : (p.without names).occurrences =
    p.occurrences.filter fun x => !names.contains x.1 := by
  obtain ⟨entries⟩ := p
  simp only [without, occurrences]
  induction entries with
  | nil => rfl
  | cons entry entries ih =>
    obtain ⟨n, values⟩ := entry
    rw [List.flatMap_cons, List.filter_append, ← ih]
    by_cases hn : names.contains n = true
    · have hnone : (values.map fun value => (n, value)).filter (fun x => !names.contains x.1) = [] :=
        List.filter_eq_nil_iff.mpr (by simpa using fun _ _ => hn)
      rw [List.filter_cons_of_neg (by simpa using hn), hnone]
      rfl
    · have hall : (values.map fun value => (n, value)).filter (fun x => !names.contains x.1) =
          values.map fun value => (n, value) :=
        List.filter_eq_self.mpr (by simpa using fun _ _ => hn)
      rw [List.filter_cons_of_pos (by simpa using hn), hall]
      rfl

/-- The other names keep their values. -/
lemma get?_without (h : name ∉ names) : (p.without names).get? name = p.get? name := by
  have hfind : (p.without names).entries.find? (fun entry => entry.1 == name) =
      p.entries.find? fun entry => entry.1 == name := by
    rw [without, List.find?_filter]
    refine congrArg (List.find? · p.entries) (funext fun entry => ?_)
    by_cases hn : entry.1 = name <;> simp [hn, h]
  show (((p.without names).entries.find? fun entry => entry.1 == name).map Prod.snd |>.getD
    []).getLast? = _
  rw [hfind]
  rfl

lemma without_push (p : Params) (names : List String) (n value : String) :
    (p.push n value).without names =
      if names.contains n then p.without names else (p.without names).push n value := by
  obtain ⟨entries⟩ := p
  simp only [push, without]
  induction entries with
  | nil => by_cases hn : n ∈ names <;> simp [pushEntry, hn]
  | cons entry entries ih =>
    obtain ⟨m, values⟩ := entry
    rw [pushEntry]
    by_cases hm : m = n
    · subst hm
      by_cases hn : m ∈ names <;> simp [hn, pushEntry]
    · by_cases hn : n ∈ names <;> by_cases hmem : m ∈ names <;>
        simp_all [pushEntry]

/-- Pairs of other names make the same parameters as all pairs do, but for those of the names. -/
lemma without_ofPairs (pairs : List (String × String)) (names : List String) :
    (ofPairs pairs).without names = ofPairs (pairs.filter fun x => !names.contains x.1) := by
  induction pairs using List.reverseRecOn with
  | nil => rfl
  | append_singleton pairs x ih =>
    rw [ofPairs_concat, without_push, ih, List.filter_append]
    by_cases hn : names.contains x.1 = true
    · rw [if_pos hn, List.filter_cons_of_neg (by simpa using hn), List.filter_nil, List.append_nil]
    · rw [if_neg hn, List.filter_cons_of_pos (by simpa using hn), List.filter_nil, ofPairs_concat]

end Params

end RowQuery
