import Mathlib.Tactic.Lemma
import RowQuery.Table.Basic

/-!
Stable sorting. Inserting an element keeps a list in order and does not move the elements that compare
equal to one another, and a list in order is determined by its elements and by how those that compare
equal follow one another (`eq_of_sorted_of_filter`). So `stableSort` is the stable merge sort of the
standard library, and where no two elements compare equal it forgets the order of the list it sorts
(`stableSort_perm_eq`). Only the elements of the list need to be ordered: what they have in common is
the predicate `P`.
-/

namespace RowQuery

open Std

variable {α β : Type}

/-- Whether the first element is less than the second one. -/
def isLess (cmp : α → α → Ordering) (a b : α) : Bool := cmp a b == .lt

/-- Whether the first element is at most the second one. -/
def isAtMost (cmp : α → α → Ordering) (a b : α) : Bool := (cmp a b).isLE

lemma insertDescending_perm (less : α → α → Bool) (x : α) (ys : List α) :
    (insertDescending less x ys).Perm (x :: ys) := by
  induction ys with
  | nil => exact .refl _
  | cons y ys ih =>
    rw [insertDescending]
    split
    · exact (ih.cons y).trans (.swap x y ys)
    · exact .refl _

lemma foldl_insertDescending_perm (less : α → α → Bool) (xs sorted : List α) :
    (xs.foldl (fun sorted x => insertDescending less x sorted) sorted).Perm (xs ++ sorted) := by
  induction xs generalizing sorted with
  | nil => exact .refl _
  | cons x xs ih =>
    refine (ih _).trans (((insertDescending_perm less x sorted).append_left xs).trans ?_)
    exact List.perm_middle

/-- Sorting keeps the elements. -/
lemma stableSort_perm (less : α → α → Bool) (xs : List α) : (stableSort less xs).Perm xs := by
  refine (List.reverse_perm _).trans ((foldl_insertDescending_perm less xs []).trans ?_)
  rw [List.append_nil]

lemma insertDescending_map (less : β → β → Bool) (f : α → β) (x : α) (ys : List α) :
    (insertDescending (fun a b => less (f a) (f b)) x ys).map f =
      insertDescending less (f x) (ys.map f) := by
  induction ys with
  | nil => rfl
  | cons y ys ih =>
    rw [insertDescending, List.map_cons, insertDescending]
    split
    · rw [List.map_cons, ih]
    · rw [List.map_cons, List.map_cons]

/-- Sorting depends on the elements only through what compares them. -/
lemma stableSort_map (less : β → β → Bool) (f : α → β) (xs : List α) :
    (stableSort (fun a b => less (f a) (f b)) xs).map f = stableSort less (xs.map f) := by
  have fold (sorted : List α) :
      (xs.foldl (fun sorted x => insertDescending (fun a b => less (f a) (f b)) x sorted)
        sorted).map f =
      (xs.map f).foldl (fun sorted x => insertDescending less x sorted) (sorted.map f) := by
    induction xs generalizing sorted with
    | nil => rfl
    | cons x xs ih => rw [List.foldl_cons, ih, insertDescending_map, List.map_cons, List.foldl_cons]
  rw [stableSort, stableSort, List.map_reverse, fold, List.map_nil]

/-- Where nothing is less than anything else, the list stays as it is. -/
lemma stableSort_eq_self {less : α → α → Bool} (h : ∀ a b, less a b = false) (xs : List α) :
    stableSort less xs = xs := by
  have insert (x : α) (ys : List α) : insertDescending less x ys = x :: ys := by
    cases ys with
    | nil => rfl
    | cons y ys => rw [insertDescending, h, if_neg Bool.false_ne_true]
  have fold (sorted : List α) :
      xs.foldl (fun sorted x => insertDescending less x sorted) sorted = xs.reverse ++ sorted := by
    induction xs generalizing sorted with
    | nil => rfl
    | cons x xs ih =>
      rw [List.foldl_cons, ih, insert, List.reverse_cons, List.append_assoc]
      rfl
  rw [stableSort, fold, List.append_nil, List.reverse_reverse]

section Ordered

variable {cmp : α → α → Ordering} [TransCmp cmp]

lemma insertDescending_sorted {x : α} {ys : List α} (h : ys.Pairwise fun a b => isAtMost cmp b a) :
    (insertDescending (isLess cmp) x ys).Pairwise fun a b => isAtMost cmp b a := by
  induction ys with
  | nil => exact List.pairwise_singleton _ x
  | cons y ys ih =>
    obtain ⟨hy, hys⟩ := List.pairwise_cons.mp h
    rw [insertDescending]
    split
    · rename_i hlt
      refine List.pairwise_cons.mpr ⟨fun z hz => ?_, ih hys⟩
      rcases List.mem_cons.mp ((insertDescending_perm _ x ys).mem_iff.mp hz) with rfl | hz
      · have hlt : cmp z y = .lt := by simpa [isLess] using hlt
        simp [isAtMost, hlt]
      · exact hy z hz
    · rename_i hnot
      have hle : isAtMost cmp y x = true := by
        have hnot : cmp x y ≠ .lt := by simpa [isLess] using hnot
        rw [isAtMost, ← OrientedCmp.isGE_eq_isLE]
        cases hc : cmp x y <;> simp_all
      refine List.pairwise_cons.mpr ⟨fun z hz => ?_, h⟩
      rcases List.mem_cons.mp hz with rfl | hz
      · exact hle
      · exact TransCmp.isLE_trans (hy z hz) hle

/-- Sorting puts the elements in order. -/
lemma stableSort_sorted (xs : List α) :
    (stableSort (isLess cmp) xs).Pairwise fun a b => isAtMost cmp a b := by
  have fold (sorted : List α) (h : sorted.Pairwise fun a b => isAtMost cmp b a) :
      (xs.foldl (fun sorted x => insertDescending (isLess cmp) x sorted) sorted).Pairwise
        fun a b => isAtMost cmp b a := by
    induction xs generalizing sorted with
    | nil => exact h
    | cons x xs ih => exact ih _ (insertDescending_sorted h)
  exact List.pairwise_reverse.mpr (fold [] .nil)

lemma filter_insertDescending (a x : α) (ys : List α) :
    (insertDescending (isLess cmp) x ys).filter (fun b => cmp a b == .eq) =
      (x :: ys).filter fun b => cmp a b == .eq := by
  induction ys with
  | nil => rfl
  | cons y ys ih =>
    rw [insertDescending]
    split
    · rename_i hlt
      have hlt : cmp x y = .lt := by simpa [isLess] using hlt
      rw [List.filter_cons, ih]
      by_cases hx : cmp a x = .eq
      · -- An element that `x` goes past is greater than it, so it is not equal to `a`.
        have hy : cmp a y = .lt := TransCmp.lt_of_eq_of_lt hx hlt
        simp [hx, hy]
      · simp [List.filter_cons, hx]
    · rfl

/-- Sorting does not move elements that compare equal. -/
lemma filter_stableSort (a : α) (xs : List α) :
    (stableSort (isLess cmp) xs).filter (fun b => cmp a b == .eq) =
      xs.filter fun b => cmp a b == .eq := by
  have fold (sorted : List α) :
      (xs.foldl (fun sorted x => insertDescending (isLess cmp) x sorted) sorted).filter
        (fun b => cmp a b == .eq) =
      (xs.filter fun b => cmp a b == .eq).reverse ++ sorted.filter fun b => cmp a b == .eq := by
    induction xs generalizing sorted with
    | nil => rfl
    | cons x xs ih =>
      rw [List.foldl_cons, ih, filter_insertDescending, List.filter_cons, List.filter_cons]
      split
      · simp
      · rfl
  rw [stableSort, List.filter_reverse, fold]
  simp

/-- Lists in order whose elements that compare equal follow one another alike are the same list. -/
lemma eq_of_sorted_of_filter {xs ys : List α} (hx : xs.Pairwise fun a b => isAtMost cmp a b)
    (hy : ys.Pairwise fun a b => isAtMost cmp a b)
    (h : ∀ a, xs.filter (fun b => cmp a b == .eq) = ys.filter fun b => cmp a b == .eq) :
    xs = ys := by
  have mem {xs ys : List α} (h : ∀ a, xs.filter (fun b => cmp a b == .eq) =
      ys.filter fun b => cmp a b == .eq) (a : α) (ha : a ∈ xs) : a ∈ ys := by
    have hmem : a ∈ xs.filter fun b => cmp a b == .eq :=
      List.mem_filter.mpr ⟨ha, by simp [ReflCmp.compare_self]⟩
    rw [h a] at hmem
    exact (List.mem_filter.mp hmem).1
  induction xs generalizing ys with
  | nil =>
    cases ys with
    | nil => rfl
    | cons y ys => simpa using mem (fun a => (h a).symm) y (by simp)
  | cons x xs ih =>
    cases ys with
    | nil => simpa using mem h x (by simp)
    | cons y ys =>
      obtain ⟨hx₁, hx₂⟩ := List.pairwise_cons.mp hx
      obtain ⟨hy₁, hy₂⟩ := List.pairwise_cons.mp hy
      have heq : cmp x y = .eq := by
        refine OrientedCmp.isLE_antisymm ?_ ?_
        · rcases List.mem_cons.mp (mem (fun a => (h a).symm) y (by simp)) with rfl | hmem
          · exact ReflCmp.isLE_rfl
          · exact hx₁ y hmem
        · rcases List.mem_cons.mp (mem h x (by simp)) with rfl | hmem
          · exact ReflCmp.isLE_rfl
          · exact hy₁ x hmem
      have hself : cmp x x = .eq := ReflCmp.compare_self
      have hhead := h x
      simp only [List.filter_cons, heq, hself, beq_self_eq_true, if_true] at hhead
      obtain rfl := (List.cons.inj hhead).1
      congr 1
      refine ih hx₂ hy₂ fun a => ?_
      have ha := h a
      rw [List.filter_cons, List.filter_cons] at ha
      split at ha
      · exact (List.cons.inj ha).2
      · exact ha

/-- Sorting is the stable merge sort. -/
lemma stableSort_eq_mergeSort (xs : List α) :
    stableSort (isLess cmp) xs = xs.mergeSort (isAtMost cmp) := by
  have trans (a b c : α) (hab : isAtMost cmp a b) (hbc : isAtMost cmp b c) : isAtMost cmp a c :=
    TransCmp.isLE_trans hab hbc
  have total (a b : α) : (isAtMost cmp a b || isAtMost cmp b a) = true := by
    rw [isAtMost, isAtMost, ← OrientedCmp.isGE_eq_isLE (a := a)]
    cases cmp a b <;> rfl
  refine eq_of_sorted_of_filter (stableSort_sorted xs) (List.pairwise_mergeSort trans total xs) ?_
  intro a
  rw [filter_stableSort]
  -- The elements that compare equal to `a` are in order, so merging keeps them as they stand.
  have hsub : (xs.filter fun b => cmp a b == .eq).Sublist (xs.mergeSort (isAtMost cmp)) := by
    refine List.sublist_mergeSort trans total (List.pairwise_of_forall_mem_list ?_) List.filter_sublist
    intro b hb c hc
    have hb : cmp a b = .eq := by simpa using (List.mem_filter.mp hb).2
    have hc : cmp a c = .eq := by simpa using (List.mem_filter.mp hc).2
    have hbc : cmp b c = .eq := TransCmp.eq_trans (OrientedCmp.eq_symm hb) hc
    simp [isAtMost, hbc]
  have hfilter := hsub.filter fun b => cmp a b == .eq
  rw [List.filter_filter] at hfilter
  simp only [Bool.and_self] at hfilter
  exact hfilter.eq_of_length (((List.mergeSort_perm xs _).filter _).length_eq.symm)

/-- What is kept of a list is sorted into what is kept of the sorted list. -/
lemma stableSort_filter (keep : α → Bool) (xs : List α) :
    stableSort (isLess cmp) (xs.filter keep) = (stableSort (isLess cmp) xs).filter keep := by
  refine eq_of_sorted_of_filter (stableSort_sorted _) ((stableSort_sorted xs).filter keep) ?_
  intro a
  have swap (ys : List α) : (ys.filter keep).filter (fun b => cmp a b == .eq) =
      (ys.filter fun b => cmp a b == .eq).filter keep := by
    rw [List.filter_filter, List.filter_filter]
    exact List.filter_congr fun b _ => Bool.and_comm _ _
  rw [filter_stableSort, swap, swap, filter_stableSort]

end Ordered

section OrderedOn

variable {P : α → Prop} {cmp : α → α → Ordering} {xs ys : List α}

/-- Elements of one kind are sorted by the stable merge sort, if what compares them orders those of
their kind. -/
lemma stableSort_eq_mergeSort_on (hc : TransCmp fun a b : {a // P a} => cmp a b)
    (h : ∀ x ∈ xs, P x) : stableSort (isLess cmp) xs = xs.mergeSort (isAtMost cmp) := by
  have hval := List.attachWith_map_subtype_val (p := P) h
  have hmerge := List.map_mergeSort (f := Subtype.val) (l := xs.attachWith P h)
    (r := isAtMost fun a b : {a // P a} => cmp a b) (s := isAtMost cmp) fun _ _ _ _ => rfl
  rw [← hval, ← stableSort_map (isLess cmp) Subtype.val, ← hmerge]
  exact congrArg _ (@stableSort_eq_mergeSort _ (fun a b : {a // P a} => cmp a b) hc _)

lemma stableSort_sorted_on (hc : TransCmp fun a b : {a // P a} => cmp a b) (h : ∀ x ∈ xs, P x) :
    (stableSort (isLess cmp) xs).Pairwise fun a b => isAtMost cmp a b := by
  have hval := List.attachWith_map_subtype_val (p := P) h
  rw [← hval, ← stableSort_map (isLess cmp) Subtype.val, List.pairwise_map]
  exact @stableSort_sorted _ (fun a b : {a // P a} => cmp a b) hc _

lemma stableSort_filter_on (hc : TransCmp fun a b : {a // P a} => cmp a b) (h : ∀ x ∈ xs, P x)
    (keep : α → Bool) :
    stableSort (isLess cmp) (xs.filter keep) = (stableSort (isLess cmp) xs).filter keep := by
  have hval := List.attachWith_map_subtype_val (p := P) h
  rw [← hval, List.filter_map, ← stableSort_map (isLess cmp) Subtype.val,
    ← stableSort_map (isLess cmp) Subtype.val, List.filter_map]
  exact congrArg _ (@stableSort_filter _ (fun a b : {a // P a} => cmp a b) hc _ _)

/-- Sorting forgets the order of a list if no two of its elements compare equal. -/
lemma stableSort_perm_eq (hc : TransCmp fun a b : {a // P a} => cmp a b) (h : ∀ x ∈ xs, P x)
    (hp : xs.Perm ys) (hne : ∀ a ∈ xs, ∀ b ∈ xs, cmp a b = .eq → a = b) :
    stableSort (isLess cmp) xs = stableSort (isLess cmp) ys := by
  have h' : ∀ y ∈ ys, P y := fun y hy => h y (hp.mem_iff.mpr hy)
  have hperm := (stableSort_perm (isLess cmp) xs).trans
    (hp.trans (stableSort_perm (isLess cmp) ys).symm)
  refine hperm.eq_of_pairwise ?_ (stableSort_sorted_on hc h) (stableSort_sorted_on hc h')
  intro a b ha hb hab hba
  have ha := (stableSort_perm _ _).mem_iff.mp ha
  have hb := hp.mem_iff.mpr ((stableSort_perm _ _).mem_iff.mp hb)
  have heq : cmp a b = .eq :=
    hc.isLE_antisymm (a := ⟨a, h a ha⟩) (b := ⟨b, h b hb⟩) hab hba
  exact hne a ha b hb heq

end OrderedOn

section Keys

variable {key : α → String}

lemma firstOfEach_filter (seen : List String) (xs : List α) :
    firstOfEach key seen xs =
      (xs.filter fun x => key x ∉ seen).eraseDupsBy fun a b => key a == key b := by
  induction xs generalizing seen with
  | nil => rfl
  | cons x xs ih =>
    rw [firstOfEach]
    split
    · rename_i hmem
      rw [ih, List.filter_cons_of_neg (by simpa using hmem)]
    · rename_i hnot
      rw [ih, List.filter_cons_of_pos (by simpa using hnot), List.eraseDupsBy_cons,
        List.filter_filter]
      congr 2
      refine List.filter_congr fun y _ => ?_
      by_cases hy : key y = key x <;> simp [hy]

/-- Only the first element of each key stays. -/
lemma firstOfEach_eq (xs : List α) :
    firstOfEach key [] xs = xs.eraseDupsBy fun a b => key a == key b := by
  rw [firstOfEach_filter, List.filter_eq_self.mpr (by simp)]

/-- Keys that no element has may be taken for seen. -/
lemma firstOfEach_cons_seen {seen : List String} {k : String} {xs : List α}
    (h : ∀ x ∈ xs, key x ≠ k) : firstOfEach key (k :: seen) xs = firstOfEach key seen xs := by
  rw [firstOfEach_filter, firstOfEach_filter]
  congr 1
  refine List.filter_congr fun x hx => ?_
  simp [h x hx]

/-- If the elements of one key are kept or dropped alike, what is kept of the first ones are the first
ones of what is kept. -/
lemma filter_firstOfEach {keep : α → Bool} {xs : List α}
    (h : ∀ a ∈ xs, ∀ b ∈ xs, key a = key b → keep a = keep b) (seen : List String) :
    (firstOfEach key seen xs).filter keep = firstOfEach key seen (xs.filter keep) := by
  induction xs generalizing seen with
  | nil => rfl
  | cons x xs ih =>
    have ih := ih fun a ha b hb => h a (by simp [ha]) b (by simp [hb])
    rw [firstOfEach]
    cases hx : keep x with
    | true =>
      rw [List.filter_cons_of_pos hx, firstOfEach]
      split
      · exact ih seen
      · rw [List.filter_cons_of_pos hx, ih]
    | false =>
      rw [List.filter_cons_of_neg (by simp [hx])]
      split
      · exact ih seen
      · rw [List.filter_cons_of_neg (by simp [hx]), ih]
        -- What is kept has other keys than the element that is not.
        refine firstOfEach_cons_seen fun y hy hkey => ?_
        obtain ⟨hy, hkeep⟩ := List.mem_filter.mp hy
        rw [h y (by simp [hy]) x (by simp) hkey, hx] at hkeep
        cases hkeep

lemma mem_of_mem_firstOfEach {seen : List String} {x : α} {xs : List α}
    (h : x ∈ firstOfEach key seen xs) : x ∈ xs := by
  induction xs generalizing seen with
  | nil => cases h
  | cons y ys ih =>
    rw [firstOfEach] at h
    split at h
    · exact List.mem_cons_of_mem y (ih h)
    · rcases List.mem_cons.mp h with rfl | h
      · exact List.mem_cons_self
      · exact List.mem_cons_of_mem y (ih h)

/-- Every element stays if no two of them have one key. -/
lemma firstOfEach_eq_self {seen : List String} {xs : List α}
    (h : xs.Pairwise fun a b => key a ≠ key b) (hs : ∀ x ∈ xs, key x ∉ seen) :
    firstOfEach key seen xs = xs := by
  induction xs generalizing seen with
  | nil => rfl
  | cons x xs ih =>
    obtain ⟨hx, hxs⟩ := List.pairwise_cons.mp h
    rw [firstOfEach, if_neg (hs x (by simp)), ih hxs]
    intro y hy hmem
    rcases List.mem_cons.mp hmem with heq | hmem
    · exact hx y hy heq.symm
    · exact hs y (by simp [hy]) hmem

/-- An element whose key was seen does not stay. -/
lemma key_not_mem_of_mem_firstOfEach {seen : List String} {x : α} {xs : List α}
    (h : x ∈ firstOfEach key seen xs) : key x ∉ seen := by
  induction xs generalizing seen with
  | nil => cases h
  | cons y ys ih =>
    rw [firstOfEach] at h
    split at h
    · exact ih h
    · rename_i hnot
      rcases List.mem_cons.mp h with rfl | h
      · exact hnot
      · exact fun hmem => ih h (List.mem_cons_of_mem _ hmem)

/-- No two of the elements that stay have one key. -/
lemma firstOfEach_pairwise (seen : List String) (xs : List α) :
    (firstOfEach key seen xs).Pairwise fun a b => key a ≠ key b := by
  induction xs generalizing seen with
  | nil => exact .nil
  | cons x xs ih =>
    rw [firstOfEach]
    split
    · exact ih seen
    · refine .cons (fun y hy heq => ?_) (ih _)
      exact key_not_mem_of_mem_firstOfEach hy (heq ▸ List.mem_cons_self)

end Keys

end RowQuery
