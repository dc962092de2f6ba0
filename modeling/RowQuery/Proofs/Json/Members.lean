import Mathlib.Data.List.Nodup
import Mathlib.Data.String.Basic
import Mathlib.Tactic.Lemma
import RowQuery.Json.Basic

/-!
The members of an object. What is put among sorted members is found under its key, and what stands
under the other keys stays (`get?_insert`). So an object has the keys of the members that it is made of, in
ascending order (`ascending_sortMembers`), and where these are different, each key leads to its own value
(`get?_sortMembers`).
-/

namespace RowQuery.Json

variable {α : Type} {key k : String} {value : α} {members : List (String × α)}

lemma get?_cons (key k : String) (value : α) (members : List (String × α)) :
    get? k ((key, value) :: members) = if key = k then some value else get? k members := by
  by_cases h : key = k
  · simp [get?, h]
  · rw [if_neg h, get?, List.find?_cons_of_neg (by simpa using h), get?]

/-- A key leads to a value that stands among the members under it. -/
lemma mem_of_get? (h : get? k members = some value) : (k, value) ∈ members := by
  obtain ⟨⟨key, v⟩, hfind, rfl⟩ := Option.map_eq_some_iff.mp h
  obtain rfl : key = k := by simpa using List.find?_some hfind
  exact List.mem_of_find?_eq_some hfind

/-- A key leads to nothing iff no member has it. -/
lemma get?_eq_none_iff : get? k members = none ↔ k ∉ members.map Prod.fst := by
  rw [get?, Option.map_eq_none_iff, List.find?_eq_none, List.mem_map, not_exists]
  exact forall_congr' fun m => by simp

/-- Where the keys are different, each leads to its value. -/
lemma get?_of_mem (hd : (members.map Prod.fst).Nodup) (h : (k, value) ∈ members) :
    get? k members = some value := by
  induction members with
  | nil => cases h
  | cons m rest ih =>
    obtain ⟨key, v⟩ := m
    obtain ⟨hnew, hrest⟩ := List.nodup_cons.mp hd
    rw [get?_cons]
    rcases List.mem_cons.mp h with heq | h
    · cases heq
      exact if_pos rfl
    · have hne : key ≠ k := by
        intro heq
        exact hnew (heq ▸ List.mem_map.mpr ⟨_, h, rfl⟩)
      rw [if_neg hne]
      exact ih hrest h

lemma get?_insert (key k : String) (value : α) (members : List (String × α)) :
    get? k (insert key value members) = if key = k then some value else get? k members := by
  induction members with
  | nil => exact get?_cons key k value []
  | cons m rest ih =>
    obtain ⟨n, v⟩ := m
    rw [insert]
    by_cases hlt : key < n
    · rw [if_pos hlt, get?_cons]
    · rw [if_neg hlt]
      by_cases heq : key = n
      · rw [if_pos heq, get?_cons, get?_cons, heq]
        split <;> rfl
      · rw [if_neg heq, get?_cons, ih, get?_cons]
        by_cases hk : key = k
        · rw [if_pos hk, if_pos hk, if_neg fun hn => heq (hk.trans hn.symm)]
        · rw [if_neg hk, if_neg hk]

/-- Sorting members puts them over those that are sorted already. -/
lemma get?_foldl_insert (hd : (members.map Prod.fst).Nodup) (sorted : List (String × α)) :
    get? k (members.foldl (fun sorted m => insert m.1 m.2 sorted) sorted) =
      (get? k members).or (get? k sorted) := by
  induction members generalizing sorted with
  | nil => rfl
  | cons m rest ih =>
    obtain ⟨key, v⟩ := m
    obtain ⟨hnew, hrest⟩ := List.nodup_cons.mp hd
    rw [List.foldl_cons, ih hrest, get?_insert, get?_cons]
    split_ifs with hk
    · -- The key does not come a second time, so nothing takes the place of its value.
      rw [get?_eq_none_iff.mpr (hk ▸ hnew)]
      rfl
    · rfl

/-- Members of different keys are looked up in an object as they are given. -/
lemma get?_sortMembers (hd : (members.map Prod.fst).Nodup) :
    get? k (sortMembers members) = get? k members :=
  (get?_foldl_insert hd []).trans Option.or_none

lemma mem_of_mem_insert {m : String × α} (h : m ∈ insert key value members) :
    m = (key, value) ∨ m ∈ members := by
  induction members with
  | nil => exact .inl (List.mem_singleton.mp h)
  | cons n rest ih =>
    rw [insert] at h
    split_ifs at h
    · exact List.mem_cons.mp h
    · exact (List.mem_cons.mp h).imp_right (List.mem_cons_of_mem _)
    · rcases List.mem_cons.mp h with rfl | h
      · exact .inr List.mem_cons_self
      · exact (ih h).imp_right (List.mem_cons_of_mem _)

/-- Sorted members are some of the given ones. -/
lemma mem_of_mem_sortMembers {m : String × α}
    (h : m ∈ sortMembers members) : m ∈ members := by
  have fold (ms sorted : List (String × α)) :
      m ∈ ms.foldl (fun sorted x => insert x.1 x.2 sorted) sorted →
        m ∈ sorted ∨ m ∈ ms := by
    induction ms generalizing sorted with
    | nil => exact .inl
    | cons n rest ih =>
      intro h
      obtain ⟨key, value⟩ := n
      rcases ih _ h with h | h
      · rcases mem_of_mem_insert h with rfl | h
        · exact .inr List.mem_cons_self
        · exact .inl h
      · exact .inr (List.mem_cons_of_mem _ h)
  exact (fold members [] h).resolve_left List.not_mem_nil

lemma mem_keys_insert : k ∈ (insert key value members).map Prod.fst ↔
    k = key ∨ k ∈ members.map Prod.fst := by
  induction members with
  | nil => simp [insert]
  | cons m rest ih =>
    obtain ⟨n, v⟩ := m
    rw [insert]
    split_ifs with hlt heq
    · simp
    · simp [heq]
    · rw [List.map_cons, List.mem_cons, ih, List.map_cons, List.mem_cons]
      exact or_left_comm

/-- An object has the keys of the members that it is made of. -/
lemma mem_keys_sortMembers : k ∈ (sortMembers members).map Prod.fst ↔ k ∈ members.map Prod.fst := by
  have fold (sorted : List (String × α)) :
      k ∈ (members.foldl (fun sorted m => insert m.1 m.2 sorted) sorted).map Prod.fst ↔
        k ∈ members.map Prod.fst ∨ k ∈ sorted.map Prod.fst := by
    induction members generalizing sorted with
    | nil => simp
    | cons m rest ih =>
      rw [List.foldl_cons, ih, mem_keys_insert, List.map_cons, List.mem_cons, or_left_comm, or_assoc]
  exact (fold []).trans (by simp)

/-- The keys ascend, so none of them comes twice. -/
def Ascending (members : List (String × α)) : Prop := members.Pairwise fun m n => m.1 < n.1

lemma Ascending.nodup (h : Ascending members) : (members.map Prod.fst).Nodup :=
  List.Pairwise.map Prod.fst (fun _ _ hlt => ne_of_lt hlt) h

/-- A member is put where its key belongs. -/
lemma Ascending.insert (h : Ascending members) (key : String) (value : α) :
    Ascending (insert key value members) := by
  induction members with
  | nil => exact List.pairwise_singleton _ _
  | cons m rest ih =>
    obtain ⟨n, v⟩ := m
    obtain ⟨hn, hrest⟩ := List.pairwise_cons.mp h
    rw [Json.insert]
    split_ifs with hlt heq
    · refine .cons (fun m hm => ?_) h
      rcases List.mem_cons.mp hm with rfl | hm
      · exact hlt
      · exact hlt.trans (hn m hm)
    · exact .cons (fun m hm => heq ▸ hn m hm) hrest
    · have hgt : n < key := lt_of_le_of_ne (not_lt.mp hlt) (Ne.symm heq)
      refine .cons (fun m hm => ?_) (ih hrest)
      rcases mem_of_mem_insert hm with rfl | hm
      · exact hgt
      · exact hn m hm

/-- The keys of an object ascend. -/
lemma ascending_sortMembers (members : List (String × α)) : Ascending (sortMembers members) := by
  have fold (sorted : List (String × α)) (h : Ascending sorted) :
      Ascending (members.foldl (fun sorted m => Json.insert m.1 m.2 sorted) sorted) := by
    induction members generalizing sorted with
    | nil => exact h
    | cons m rest ih => exact ih _ (h.insert m.1 m.2)
  exact fold [] .nil

/-- Members of which each is the only one of its key are all kept. -/
lemma mem_sortMembers {m : String × α} (hkeys : ∀ m ∈ members, ∀ n ∈ members, m.1 = n.1 → m = n) :
    m ∈ sortMembers members ↔ m ∈ members := by
  refine ⟨mem_of_mem_sortMembers, fun hm => ?_⟩
  have hkey : m.1 ∈ (sortMembers members).map Prod.fst :=
    mem_keys_sortMembers.mpr (List.mem_map_of_mem hm)
  obtain ⟨n, hn, hname⟩ := List.mem_map.mp hkey
  rwa [hkeys m hm n (mem_of_mem_sortMembers hn) hname.symm]

/-- Ascending members are settled by what is among them. -/
lemma Ascending.eq {others : List (String × α)} (h : Ascending members) (ho : Ascending others)
    (hmem : ∀ m, m ∈ members ↔ m ∈ others) : members = others := by
  have hperm : members.Perm others :=
    (List.perm_ext_iff_of_nodup h.nodup.of_map ho.nodup.of_map).mpr hmem
  exact hperm.eq_of_pairwise (fun _ _ _ _ hlt hgt => absurd hgt (lt_asymm hlt)) h ho

/-- Neither the order of the members that make an object counts nor how often each is given, if none of
them takes the place of another one. -/
lemma sortMembers_congr {others : List (String × α)}
    (hkeys : ∀ m ∈ members, ∀ n ∈ members, m.1 = n.1 → m = n)
    (hmem : ∀ m, m ∈ members ↔ m ∈ others) : sortMembers members = sortMembers others := by
  have hothers : ∀ m ∈ others, ∀ n ∈ others, m.1 = n.1 → m = n := fun m hm n hn =>
    hkeys m ((hmem m).mpr hm) n ((hmem n).mpr hn)
  refine (ascending_sortMembers members).eq (ascending_sortMembers others) fun m => ?_
  rw [mem_sortMembers hkeys, mem_sortMembers hothers, hmem]

/-- If a value is an object, its keys ascend, as those of every object in memory do. -/
def KeysAscend : Json → Prop
  | .object members => Ascending members
  | _ => True

instance (doc : Json) : Decidable doc.KeysAscend :=
  match doc with
  | .object members => inferInstanceAs (Decidable (members.Pairwise fun m n => m.1 < n.1))
  | .null | .bool _ | .integer _ | .float _ | .string _ | .array _ => .isTrue trivial

end RowQuery.Json
