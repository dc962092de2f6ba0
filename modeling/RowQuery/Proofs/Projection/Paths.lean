import RowQuery.Proofs.Numeric.Digits
import RowQuery.Proofs.Projection
import RowQuery.Proofs.Projection.Items

/-!
What paths find in documents. A value has children, the members of an object under their keys and the items
of an array under their numbers, and names lead from child to child (`Json.Reaches`). In a document whose
children have names that a path can take (`Json.Addressable`), what a path finds stands under such names
(`hits`): it is the value that they lead to, or null if they lead nowhere, and they find nothing else (`Hit`).
The first star of a path stands for the names of all children (`hits_star_mid`). So a value that is found
depends on the path that it is shown under and not on the path that was asked for, and a projection shows the
same whatever the order of its paths: `traverse_finds_own_values`.
-/

namespace RowQuery

namespace Path

/-- A text that is a fragment of some path. -/
def IsFragment (fragment : String) : Prop := fragment ≠ "" ∧ '.' ∉ fragment.toList

instance (fragment : String) : Decidable (IsFragment fragment) := inferInstanceAs (Decidable (_ ∧ _))

/-- The texts between the points of a path, but the empty ones. -/
def parts (path : String) : List String :=
  ((path.toList.splitOn '.').filter (· ≠ [])).map String.ofList

/-- Whether a name stands for the number of an item: a plus sign or none, zeros and the digits. -/
def IsNumber (name : String) (i : Nat) : Prop :=
  ∃ sign ∈ [[], ['+']], ∃ zeros : Nat,
    name.toList = sign ++ (List.replicate zeros '0' ++ (toString i).toList)

end Path

namespace Json

/-- The children of a value under their names: the members of an object under their keys, and the items of
an array under their numbers. Nothing else has children. -/
inductive HasChild : Json → String → Json → Prop where
  | member {members : List (String × Json)} {name : String} {child : Json} :
      (name, child) ∈ members → HasChild (.object members) name child
  | item {items : List Json} {i : Nat} {name : String} {child : Json} :
      items[i]? = some child → Path.IsNumber name i → HasChild (.array items) name child

/-- Names lead from a value to the child of the first name, and the others lead on from there. -/
inductive Reaches : Json → List String → Json → Prop where
  | here (value : Json) : Reaches value [] value
  | child {value child found : Json} {name : String} {rest : List String} :
      HasChild value name child → Reaches child rest found → Reaches value (name :: rest) found

/-- What has to be shown under names: the value that they lead to, or null if they lead nowhere. -/
structure ShownAt (doc : Json) (names : List String) (shown : Json) : Prop where
  reached : ∀ found, doc.Reaches names found → shown = found
  lost : (∀ found, ¬doc.Reaches names found) → shown = .null

end Json

/-- A document whose values can all be named by paths: no key is empty or the star, and there is no point in
it. Its objects have their members in order, each key once, and the items of its arrays can be counted with
64 bits; so it is with every document in memory. -/
inductive Json.Addressable : Json → Prop where
  | null : Addressable .null
  | bool (b : Bool) : Addressable (.bool b)
  | integer (n : Int) : Addressable (.integer n)
  | float (x : Numeric.Binary64) : Addressable (.float x)
  | string (s : String) : Addressable (.string s)
  | array {items : List Json} : items.length ≤ Numeric.maxNat64 →
      (∀ item ∈ items, Addressable item) → Addressable (.array items)
  | object {members : List (String × Json)} : Json.Ascending members →
      (∀ m ∈ members, Path.IsFragment m.1 ∧ m.1 ≠ "*") →
      (∀ m ∈ members, Addressable m.2) → Addressable (.object members)

namespace Path

variable {doc value child : Json} {children : List (String × Json)} {name fragment : String}
  {before rest : List String} {x : List String × Json}

section Fragments

lemma fragments_eq (path : String) : fragments path = parts path := by
  rw [fragments, Text.splitOn_eq, parts]
  refine congrArg _ (List.filter_congr fun piece _ => ?_)
  cases piece <;> rfl

lemma isFragment_of_mem_parts {path : String} (h : fragment ∈ parts path) : IsFragment fragment := by
  refine ⟨fun hempty => ?_, not_mem_of_mem_fragments ((fragments_eq path).symm ▸ h)⟩
  obtain ⟨piece, hpiece, rfl⟩ := List.mem_map.mp h
  rw [← String.toList_eq_nil_iff, String.toList_ofList] at hempty
  simpa [hempty] using (List.mem_filter.mp hpiece).2

/-- The fragments of a path are read back. -/
lemma parts_join {names : List String} (h : ∀ name ∈ names, IsFragment name) :
    parts (join names) = names := by
  cases names with
  | nil => rfl
  | cons first rest =>
    have hpieces : (join (first :: rest)).toList.splitOn '.' = (first :: rest).map String.toList := by
      rw [join, String.toList_intercalate]
      refine List.splitOn_intercalate '.' (fun piece hpiece => ?_) (by simp)
      obtain ⟨name, hname, rfl⟩ := List.mem_map.mp hpiece
      exact (h name hname).2
    have hsome : ∀ piece ∈ (first :: rest).map String.toList, decide (piece ≠ []) = true := by
      intro piece hpiece
      obtain ⟨name, hname, rfl⟩ := List.mem_map.mp hpiece
      simpa using (h name hname).1
    rw [parts, hpieces, List.filter_eq_self.mpr hsome, List.map_map]
    refine (List.map_congr_left fun name _ => ?_).trans (List.map_id _)
    exact String.ofList_toList

lemma toList_toString (i : Nat) : (toString i).toList = Numeric.natDigits i := by
  rw [Nat.toString_eq_repr, Nat.repr, String.toList_ofList, Numeric.natDigits]

/-- The number of an item is a fragment, and not the star. -/
lemma isFragment_toString (i : Nat) : IsFragment (toString i) ∧ toString i ≠ star := by
  refine ⟨⟨fun hempty => ?_, fun hpoint => ?_⟩, fun hstar => ?_⟩
  · rw [← String.toList_eq_nil_iff, toList_toString] at hempty
    exact Numeric.natDigits_ne_nil i hempty
  · rw [toList_toString] at hpoint
    exact absurd (Numeric.isDigit_of_mem_natDigits hpoint) (by decide)
  · have hmem : '*' ∈ Numeric.natDigits i := by
      rw [← toList_toString, hstar]
      decide
    exact absurd (Numeric.isDigit_of_mem_natDigits hmem) (by decide)

/-- The names of the number of an item are the texts that are read as it, if it is one of 64 bits. -/
lemma isNumber_iff {i : Nat} (h : i ≤ Numeric.maxNat64) :
    IsNumber name i ↔ Numeric.readNat64? name.toList = some i := by
  rw [Numeric.readNat64?_iff, IsNumber, toList_toString]
  exact (and_iff_right h).symm

/-- What is written for a number is a name of it. -/
lemma isNumber_toString (i : Nat) : IsNumber (toString i) i :=
  ⟨[], by simp, 0, rfl⟩

end Fragments

section Children

/-- Each child is the only one of its name, which is a fragment and not the star. -/
lemma child?_of_mem_children (hv : value.Addressable) (hc : children? value = some children)
    {m : String × Json} (hm : m ∈ children) :
    child? m.1 value = some m.2 ∧ IsFragment m.1 ∧ m.1 ≠ star ∧ m.2.Addressable := by
  cases hv with
  | null | bool b | integer n | float x | string s => cases hc
  | @array items hlength hitems =>
    cases hc
    obtain ⟨⟨item, i⟩, hitem, rfl⟩ := List.mem_map.mp hm
    have hget : items[i]? = some item := List.mem_zipIdx_iff_getElem?.mp hitem
    obtain ⟨hi, -⟩ := List.getElem?_eq_some_iff.mp hget
    refine ⟨?_, (isFragment_toString i).1, (isFragment_toString i).2, hitems item ?_⟩
    · rw [child?, (isNumber_iff (by omega)).mp (isNumber_toString i)]
      exact hget
    · exact List.mem_of_getElem? hget
  | object hascending hkeys hmembers =>
    cases hc
    exact ⟨Json.get?_of_mem hascending.nodup hm, (hkeys m hm).1, (hkeys m hm).2, hmembers m hm⟩

/-- What has no children has none of any name. -/
lemma child?_of_children? (h : children? value = none) (fragment : String) :
    child? fragment value = none := by
  cases value with
  | null | bool b | integer n | float x | string s => rfl
  | array items | object members => cases h

lemma addressable_of_child? (hv : value.Addressable) (h : child? fragment value = some child) :
    child.Addressable := by
  cases hv with
  | null | bool b | integer n | float x | string s => cases h
  | array hlength hitems =>
    obtain ⟨i, -, hget⟩ := Option.bind_eq_some_iff.mp h
    exact hitems child (List.mem_of_getElem? hget)
  | object hascending hkeys hmembers => exact hmembers _ (Json.mem_of_get? h)

/-- A fragment is followed to the child of this name, and to nothing if there is none. -/
lemma child?_eq_some_iff (hv : value.Addressable) :
    child? name value = some child ↔ value.HasChild name child := by
  cases hv with
  | null | bool b | integer n | float x | string s => exact ⟨nofun, nofun⟩
  | @array items hlength hitems =>
    have hbound {i : Nat} (h : items[i]? = some child) : i ≤ Numeric.maxNat64 := by
      obtain ⟨hi, -⟩ := List.getElem?_eq_some_iff.mp h
      omega
    rw [child?, Option.bind_eq_some_iff]
    constructor
    · rintro ⟨i, hread, hget⟩
      exact .item hget ((isNumber_iff (hbound hget)).mpr hread)
    · rintro (_ | ⟨hget, hname⟩)
      exact ⟨_, (isNumber_iff (hbound hget)).mp hname, hget⟩
  | object hascending hkeys hmembers =>
    constructor
    · exact fun h => .member (Json.mem_of_get? h)
    · rintro (h | _)
      exact Json.get?_of_mem hascending.nodup h

lemma addressable_of_reaches (hd : doc.Addressable) (h : doc.Reaches before value) :
    value.Addressable := by
  induction h with
  | here value => exact hd
  | child hchild _ ih => exact ih (addressable_of_child? hd ((child?_eq_some_iff hd).mpr hchild))

/-- Scalars and null have no children. -/
lemma children?_eq_none (ho : ∀ members, value ≠ .object members) (ha : ∀ items, value ≠ .array items) :
    children? value = none := by
  cases value with
  | null | bool b | integer n | float x | string s => rfl
  | array items => exact absurd rfl (ha items)
  | object members => exact absurd rfl (ho members)

/-- The items of an array are named by their numbers, in order. -/
lemma flatMap_children_array {β : Type} {items : List Json} (h : children? (.array items) = some children)
    (f : String → List β) :
    (children.flatMap fun m => f m.1) = (List.range items.length).flatMap fun i => f (toString i) := by
  cases h
  rw [List.flatMap_map, List.range_eq_range', ← List.zipIdx_map_snd, List.flatMap_map]

end Children

/-- What is found in a child, as it is found in the value. -/
def under (name : String) (x : List String × Json) : List String × Json := (name :: x.1, x.2)

/-- What fragments find in a value, under the names of the children that lead there. -/
def hits : List String → Json → List (List String × Json)
  | [], value => [([], value)]
  | fragment :: rest, value =>
    match if fragment = star then children? value else none with
    | some children => children.flatMap fun m => (hits rest m.2).map (under m.1)
    | none =>
      match child? fragment value with
      | some child => (hits rest child).map (under fragment)
      | none => [(fragment :: rest, .null)]

/-- A star or a name leads on, or else the fragments lead nowhere. -/
lemma step_cases (fragment : String) (value : Json) :
    (fragment = star ∧ ∃ children, children? value = some children) ∨
    (fragment ≠ star ∧ ∃ child, child? fragment value = some child) ∨
    (child? fragment value = none ∧ (fragment = star → children? value = none)) := by
  by_cases hf : fragment = star
  · cases hc : children? value with
    | some children => exact .inl ⟨hf, children, rfl⟩
    | none => exact .inr (.inr ⟨child?_of_children? hc fragment, fun _ => rfl⟩)
  · cases hc : child? fragment value with
    | some child => exact .inr (.inl ⟨hf, child, rfl⟩)
    | none => exact .inr (.inr ⟨rfl, fun h => absurd h hf⟩)

lemma hits_star (hc : children? value = some children) (rest : List String) :
    hits (star :: rest) value = children.flatMap fun m => (hits rest m.2).map (under m.1) := by
  rw [hits, if_pos rfl, hc]

lemma hits_name (hn : name ≠ star) (hc : child? name value = some child) (rest : List String) :
    hits (name :: rest) value = (hits rest child).map (under name) := by
  rw [hits, if_neg hn, hc]

/-- What is no star of a value with children is not followed as one. -/
lemma not_starred (hs : fragment = star → children? value = none) :
    (if fragment = star then children? value else none) = none := by
  split_ifs with hf
  · exact hs hf
  · rfl

lemma hits_nowhere (hc : child? fragment value = none) (hs : fragment = star → children? value = none)
    (rest : List String) : hits (fragment :: rest) value = [(fragment :: rest, .null)] := by
  rw [hits, not_starred hs, hc]

/-- The rest of a path finds its hits, under the path that has led to the value and the names from there. -/
lemma follow_eq (before rest : List String) (value : Json) :
    follow before rest value = (hits rest value).map fun x => (join (before ++ x.1), x.2) := by
  induction rest generalizing before value with
  | nil => cases value <;> simp [follow, unresolved, hits]
  | cons fragment rest ih =>
    have hunder (name : String) (child : Json) : follow (before ++ [name]) rest child =
        ((hits rest child).map (under name)).map fun x => (join (before ++ x.1), x.2) := by
      rw [ih, List.map_map]
      exact List.map_congr_left fun x _ => by simp [under]
    -- Null is a case of its own in `follow` but not in `hits`: it has no child for a fragment to lead to.
    by_cases hnull : value = .null
    · rw [hnull, follow, unresolved, hits_nowhere rfl fun _ => rfl, List.map_singleton]
    · rw [follow]
      · rcases step_cases fragment value with ⟨rfl, children, hc⟩ | ⟨hf, child, hc⟩ | ⟨hc, hs⟩
        · rw [if_pos rfl, hc, hits_star hc, List.map_flatMap]
          exact List.flatMap_congr fun m _ => hunder m.1 m.2
        · rw [if_neg hf, hc, hits_name hf hc]
          exact hunder fragment child
        · rw [not_starred hs, hc, hits_nowhere hc hs, List.map_singleton, unresolved]
      · exact hnull

/-- Something that stands under the fragments that lead to it, and to nothing else. -/
structure Hit (value : Json) (x : List String × Json) : Prop where
  isFragment : ∀ name ∈ x.1, IsFragment name
  shown : value.ShownAt x.1 x.2
  alone : hits x.1 value = [x]

/-- What is hit in a child is hit in the value. -/
lemma Hit.under (h : Hit child x) (hv : value.Addressable) (hname : IsFragment name) (hn : name ≠ star)
    (hc : child? name value = some child) : Hit value (under name x) where
  isFragment := List.forall_mem_cons.mpr ⟨hname, h.isFragment⟩
  shown := by
    refine ⟨fun found hfound => ?_, fun hlost => ?_⟩
    · cases hfound with
      | child hchild hrest =>
        -- There is one child of the name, so this is where the rest leads on from.
        obtain rfl := Option.some.inj (hc.symm.trans ((child?_eq_some_iff hv).mpr hchild))
        exact h.shown.reached found hrest
    · exact h.shown.lost fun found hfound => hlost found (.child ((child?_eq_some_iff hv).mp hc) hfound)
  alone := by
    show hits (name :: x.1) value = _
    rw [hits_name hn hc, h.alone, List.map_singleton]

/-- Whatever fragments find is hit. -/
lemma hit_of_mem_hits (hv : value.Addressable) (hf : ∀ name ∈ rest, IsFragment name)
    (h : x ∈ hits rest value) : Hit value x := by
  -- Along the fragments: each hit is one of a child, or is where the path breaks off.
  induction rest generalizing value x with
  | nil =>
    obtain rfl := List.mem_singleton.mp h
    refine ⟨List.forall_mem_nil _, ⟨fun found hfound => ?_, fun hlost => ?_⟩, rfl⟩
    · cases hfound
      rfl
    · exact absurd (.here value) (hlost value)
  | cons fragment rest ih =>
    obtain ⟨hfragment, hrest⟩ := List.forall_mem_cons.mp hf
    rcases step_cases fragment value with ⟨rfl, children, hc⟩ | ⟨hne, child, hc⟩ | ⟨hc, hs⟩
    · rw [hits_star hc] at h
      obtain ⟨m, hm, h⟩ := List.mem_flatMap.mp h
      obtain ⟨y, hy, rfl⟩ := List.mem_map.mp h
      obtain ⟨hchild, hname, hstar, haddressable⟩ := child?_of_mem_children hv hc hm
      exact (ih haddressable hrest hy).under hv hname hstar hchild
    · rw [hits_name hne hc] at h
      obtain ⟨y, hy, rfl⟩ := List.mem_map.mp h
      exact (ih (addressable_of_child? hv hc) hrest hy).under hv hfragment hne hc
    · rw [hits_nowhere hc hs] at h
      obtain rfl := List.mem_singleton.mp h
      -- The fragments from here on are those that were asked for, and lead nowhere the second time too.
      refine ⟨hf, ⟨fun found hfound => ?_, fun _ => rfl⟩, hits_nowhere hc hs rest⟩
      cases hfound with
      | child hchild _ =>
        rw [(child?_eq_some_iff hv).mpr hchild] at hc
        cases hc

/-- Fragments without a star find one value. -/
lemma exists_hits_eq (hs : star ∉ rest) (value : Json) : ∃ found, hits rest value = [(rest, found)] := by
  induction rest generalizing value with
  | nil => exact ⟨value, rfl⟩
  | cons fragment rest ih =>
    obtain ⟨hfragment, hrest⟩ := List.ne_and_not_mem_of_not_mem_cons hs
    rcases step_cases fragment value with ⟨heq, -⟩ | ⟨hne, child, hc⟩ | ⟨hc, hnone⟩
    · exact absurd heq.symm hfragment
    · obtain ⟨found, hfound⟩ := ih hrest child
      exact ⟨found, by rw [hits_name hne hc, hfound, List.map_singleton, under]⟩
    · exact ⟨.null, hits_nowhere hc hnone rest⟩

/-- The first star of a path stands for the names of all children of the value that it is reached with. -/
lemma hits_star_mid (hd : doc.Addressable) (hs : star ∉ before) (hv : doc.Reaches before value)
    (hc : children? value = some children) (after : List String) :
    hits (before ++ star :: after) doc = children.flatMap fun m => hits (before ++ m.1 :: after) doc := by
  induction hv with
  | here value =>
    rw [List.nil_append, hits_star hc]
    refine List.flatMap_congr fun m hm => ?_
    obtain ⟨hchild, -, hstar, -⟩ := child?_of_mem_children hd hc hm
    exact (hits_name hstar hchild after).symm
  | @child value child found name before hchild _ ih =>
    -- Both sides are followed to the same child, the star and the names for it being further behind.
    obtain ⟨hname, hbefore⟩ := List.ne_and_not_mem_of_not_mem_cons hs
    have hchild := (child?_eq_some_iff hd).mpr hchild
    have hstep (rest : List String) : hits (name :: rest) value = (hits rest child).map (under name) :=
      hits_name hname.symm hchild rest
    rw [List.cons_append, hstep, ih (addressable_of_child? hd hchild) hbefore hc, List.map_flatMap]
    exact List.flatMap_congr fun m _ => (hstep _).symm

/-- A star that is not reached with children leads nowhere. -/
lemma hits_star_lost (hd : doc.Addressable) (hs : star ∉ before)
    (hlost : ∀ value, doc.Reaches before value → children? value = none) (after : List String) :
    hits (before ++ star :: after) doc = [(before ++ star :: after, .null)] := by
  induction before generalizing doc with
  | nil =>
    have hc := hlost doc (.here doc)
    exact hits_nowhere (child?_of_children? hc star) (fun _ => hc) after
  | cons name before ih =>
    obtain ⟨hname, hbefore⟩ := List.ne_and_not_mem_of_not_mem_cons hs
    cases hc : child? name doc with
    | none => exact hits_nowhere hc (fun h => absurd h.symm hname) _
    | some child =>
      have hchild := (child?_eq_some_iff hd).mp hc
      rw [List.cons_append, hits_name hname.symm hc,
        ih (addressable_of_child? hd hc) hbefore fun value hv => hlost value (.child hchild hv),
        List.map_singleton, under]

section Traverse

lemma traverse_eq (path : String) (doc : Json) :
    traverse path doc = (hits (parts path) doc).map fun x => (join x.1, x.2) := by
  rw [← fragments_eq]
  exact follow_eq [] (fragments path) doc

lemma traverse_join (h : ∀ name ∈ before, IsFragment name) (doc : Json) :
    traverse (join before) doc = (hits before doc).map fun x => (join x.1, x.2) := by
  rw [traverse_eq, parts_join h]

/-- What is found stands under the path to it, and this path finds nothing else. -/
lemma of_mem_traverse (hd : doc.Addressable) {path : String} {x : String × Json}
    (h : x ∈ traverse path doc) : doc.ShownAt (parts x.1) x.2 ∧ traverse x.1 doc = [x] := by
  rw [traverse_eq] at h
  obtain ⟨y, hy, rfl⟩ := List.mem_map.mp h
  have hit := hit_of_mem_hits hd (fun name hname => isFragment_of_mem_parts hname) hy
  constructor
  · rw [parts_join hit.isFragment]
    exact hit.shown
  · rw [traverse_join hit.isFragment, hit.alone, List.map_singleton]

/-- Whatever is found under one path is found once. -/
lemma eq_of_mem_traverse (hd : doc.Addressable) {path other : String} {x y : String × Json}
    (hx : x ∈ traverse path doc) (hy : y ∈ traverse other doc) (h : x.1 = y.1) : x = y := by
  have hsame := (of_mem_traverse hd hx).2
  rw [h, (of_mem_traverse hd hy).2] at hsame
  exact (List.singleton_inj.mp hsame).symm

/-- A path without a star finds one value. -/
lemma exists_traverse_eq {path : String} (hs : star ∉ parts path) (doc : Json) :
    ∃ found, traverse path doc = [(join (parts path), found)] := by
  obtain ⟨found, hfound⟩ := exists_hits_eq hs doc
  exact ⟨found, by rw [traverse_eq, hfound, List.map_singleton]⟩

/-- A path whose first star is reached with children finds what the paths with their names in its place
find. -/
lemma traverse_star (hd : doc.Addressable) {path : String} {after : List String}
    (hpath : parts path = before ++ star :: after) (hs : star ∉ before) (hv : doc.Reaches before value)
    (hc : children? value = some children) :
    traverse path doc = children.flatMap fun m => traverse (join (before ++ m.1 :: after)) doc := by
  have hparts : ∀ name ∈ before ++ star :: after, IsFragment name := fun name hname =>
    isFragment_of_mem_parts (hpath ▸ hname)
  obtain ⟨hbefore, hafter⟩ := List.forall_mem_append.mp hparts
  rw [traverse_eq, hpath, hits_star_mid hd hs hv hc, List.map_flatMap]
  refine List.flatMap_congr fun m hm => ?_
  obtain ⟨-, hname, -, -⟩ := child?_of_mem_children (addressable_of_reaches hd hv) hc hm
  refine (traverse_join (List.forall_mem_append.mpr ⟨hbefore, ?_⟩) doc).symm
  exact List.forall_mem_cons.mpr ⟨hname, (List.forall_mem_cons.mp hafter).2⟩

/-- A path whose first star is not reached with children finds nothing but null. -/
lemma traverse_star_lost (hd : doc.Addressable) {path : String} {after : List String}
    (hpath : parts path = before ++ star :: after) (hs : star ∉ before)
    (hlost : ∀ value, doc.Reaches before value → children? value = none) :
    traverse path doc = [(join (parts path), .null)] := by
  rw [traverse_eq, hpath, hits_star_lost hd hs hlost, List.map_singleton]

end Traverse

end Path

namespace Projection

variable {p q : Projection} {doc : Json} {members : List (String × Json)}

lemma pluckItems_eq (p : Projection) (items : List Json) : pluckItems p items = items.map p.pluck := by
  induction items with
  | nil => rfl
  | cons item items ih => rw [pluckItems, ih, List.map_cons]

/-- What is found under one path by any of the paths of a projection is found once. -/
lemma eq_of_mem_found (hd : doc.Addressable) {m n : String × Json}
    (hm : m ∈ p.paths.flatMap fun path => Path.traverse path doc)
    (hn : n ∈ p.paths.flatMap fun path => Path.traverse path doc) (h : m.1 = n.1) : m = n := by
  obtain ⟨_, -, hm⟩ := List.mem_flatMap.mp hm
  obtain ⟨_, -, hn⟩ := List.mem_flatMap.mp hn
  exact Path.eq_of_mem_traverse hd hm hn h

/-- Of an object all that the paths find is shown, and nothing else. -/
lemma pluck_object (hd : (Json.object members).Addressable) (hp : p.paths ≠ []) :
    ∃ shown, p.pluck (.object members) = .object shown ∧ Json.Ascending shown ∧
      ∀ x, x ∈ shown ↔ ∃ path ∈ p.paths, x ∈ Path.traverse path (.object members) := by
  refine ⟨Json.sortMembers (p.paths.flatMap fun path => Path.traverse path (.object members)), ?_,
    Json.ascending_sortMembers _, fun x => ?_⟩
  · rw [pluck, if_neg (by simpa using hp)]
    rfl
  · rw [Json.mem_sortMembers fun m hm n hn => eq_of_mem_found hd hm hn, List.mem_flatMap]

/-- Projections to the same paths show the same. -/
lemma pluck_congr (hd : doc.Addressable) (hpaths : ∀ path, path ∈ p.paths ↔ path ∈ q.paths) :
    p.pluck doc = q.pluck doc := by
  induction hd with
  | null | bool b | integer n | float x | string s => rfl
  | array _ _ ih =>
    rw [pluck, pluck, pluckItems_eq, pluckItems_eq]
    exact congrArg Json.array (List.map_congr_left ih)
  | @object members hascending hkeys hmembers =>
    have hd : (Json.object members).Addressable := .object hascending hkeys hmembers
    have hnone : p.paths.isEmpty = q.paths.isEmpty := by
      rw [Bool.eq_iff_iff, List.isEmpty_iff, List.isEmpty_iff, List.eq_nil_iff_forall_not_mem,
        List.eq_nil_iff_forall_not_mem]
      exact forall_congr' fun path => not_congr (hpaths path)
    have hfound : p.pluckObject (.object members) = q.pluckObject (.object members) := by
      refine congrArg Json.object (Json.sortMembers_congr ?_ fun m => ?_)
      · exact fun m hm n hn => eq_of_mem_found hd hm hn
      · rw [List.mem_flatMap, List.mem_flatMap]
        exact exists_congr fun path => and_congr_left fun _ => hpaths path
    rw [pluck, pluck, hnone, hfound]

/-- Fields that are requested in another order or more than once make a projection to the same paths. -/
lemma mem_paths_ofLists_congr {fields fields' : List String} (h : ∀ field, field ∈ fields ↔ field ∈ fields')
    (path : String) : path ∈ (ofLists fields).paths ↔ path ∈ (ofLists fields').paths := by
  rw [ofLists, ofLists, mem_collectItems, mem_collectItems]
  exact exists_congr fun field => and_congr_left fun _ => h field

/-- In a document whose values can all be named by paths, a path finds each value under the names that lead
to it, or finds null under names that lead nowhere, and these names find it alone. Without a star there is
one such path. The first star of a path stands for the keys of the members or the numbers of the items, in
their order, of what is reached before it, and leads nowhere if that is neither an object nor an array. A
projection shows of an object all that its paths find and nothing else, so it shows the same for the same
paths, in whatever order and however often they are requested. -/
theorem traverse_finds_own_values (hd : doc.Addressable) (path : String) :
    (∀ x ∈ Path.traverse path doc,
      doc.ShownAt (Path.parts x.1) x.2 ∧ Path.traverse x.1 doc = [x]) ∧
    ("*" ∉ Path.parts path →
      ∃ found, Path.traverse path doc = [(".".intercalate (Path.parts path), found)]) ∧
    (∀ before after, Path.parts path = before ++ "*" :: after → "*" ∉ before →
      (∀ members, doc.Reaches before (.object members) → Path.traverse path doc =
        members.flatMap fun m => Path.traverse (".".intercalate (before ++ m.1 :: after)) doc) ∧
      (∀ items, doc.Reaches before (.array items) → Path.traverse path doc =
        (List.range items.length).flatMap fun i =>
          Path.traverse (".".intercalate (before ++ toString i :: after)) doc) ∧
      ((∀ members, ¬doc.Reaches before (.object members)) →
        (∀ items, ¬doc.Reaches before (.array items)) →
        Path.traverse path doc = [(".".intercalate (Path.parts path), .null)])) ∧
    (∀ p : Projection, ∀ members, doc = .object members → p.paths ≠ [] →
      ∃ shown, p.pluck doc = .object shown ∧ Json.Ascending shown ∧
        ∀ x, x ∈ shown ↔ ∃ path ∈ p.paths, x ∈ Path.traverse path doc) ∧
    (∀ p q : Projection, (∀ name, name ∈ p.paths ↔ name ∈ q.paths) → p.pluck doc = q.pluck doc) ∧
    (∀ fields fields' : List String, (∀ field, field ∈ fields ↔ field ∈ fields') →
      (ofLists fields).pluck doc = (ofLists fields').pluck doc) := by
  refine ⟨fun x hx => Path.of_mem_traverse hd hx, fun hs => Path.exists_traverse_eq hs doc,
    fun before after hpath hs => ⟨?_, ?_, ?_⟩, ?_, fun p q h => pluck_congr hd h,
    fun fields fields' h => pluck_congr hd (mem_paths_ofLists_congr h)⟩
  · exact fun members hv => Path.traverse_star hd hpath hs hv rfl
  · intro items hv
    refine (Path.traverse_star hd hpath hs hv rfl).trans ?_
    exact Path.flatMap_children_array rfl fun name =>
      Path.traverse (".".intercalate (before ++ name :: after)) doc
  · intro hobject harray
    refine Path.traverse_star_lost hd hpath hs fun value hv => Path.children?_eq_none ?_ ?_
    · exact fun members h => hobject members (h ▸ hv)
    · exact fun items h => harray items (h ▸ hv)
  · rintro p members rfl hp
    exact pluck_object hd hp

end Projection

/-- A league of two teams, the second of which has neither a city nor wins. -/
def Json.league : Json :=
  .object [("name", .string "North"), ("teams", .array
    [.object [("city", .string "Rome"), ("wins", .integer 3)], .object [("city", .null)]])]

lemma Json.league_addressable : league.Addressable := by
  have hcity : (Json.object [("city", .null)]).Addressable :=
    .object (List.pairwise_singleton _ _) (by decide) (by simpa using .null)
  have hwins : (Json.object [("city", .string "Rome"), ("wins", .integer 3)]).Addressable :=
    .object (by rw [Ascending]; decide) (by decide) (by simpa using ⟨.string "Rome", .integer 3⟩)
  have hteams : (Json.array [.object [("city", .string "Rome"), ("wins", .integer 3)],
      .object [("city", .null)]]).Addressable := .array (by decide) (by simpa using ⟨hwins, hcity⟩)
  exact .object (by rw [Ascending]; decide) (by decide) (by simpa using ⟨.string "North", hteams⟩)

namespace Projection

/-- The wins of each team, of which the second one has none, and all that is known of the first team. A name
has neither children nor anything behind it. -/
theorem league_finds_own_values :
    Json.league.Addressable ∧
    (∀ x ∈ Path.traverse "teams.*.wins" Json.league,
      Json.league.ShownAt (Path.parts x.1) x.2 ∧ Path.traverse x.1 Json.league = [x]) ∧
    Path.traverse "teams.*.wins" Json.league =
      Path.traverse "teams.0.wins" Json.league ++ Path.traverse "teams.1.wins" Json.league ∧
    Path.traverse "teams.*.wins" Json.league = [("teams.0.wins", .integer 3), ("teams.1.wins", .null)] ∧
    Path.traverse "teams.+00.*" Json.league =
      Path.traverse "teams.+00.city" Json.league ++ Path.traverse "teams.+00.wins" Json.league ∧
    Path.traverse "teams.+00.*" Json.league =
      [("teams.+00.city", .string "Rome"), ("teams.+00.wins", .integer 3)] ∧
    Path.traverse "name.*" Json.league = [("name.*", .null)] ∧
    Json.league.ShownAt ["name", "first"] .null ∧
    (∃ found, Path.traverse "teams..1" Json.league = [("teams.1", found)]) ∧
    (ofLists ["name", "teams.*.wins"]).pluck Json.league =
      (ofLists ["teams.*.wins", "name", "name"]).pluck Json.league := by
  have hd := Json.league_addressable
  have hteams : Json.league.HasChild "teams" (.array
      [.object [("city", .string "Rome"), ("wins", .integer 3)], .object [("city", .null)]]) :=
    .member (by simp)
  have hname (found : Json) (h : Json.league.Reaches ["name"] found) : found = .string "North" := by
    cases h with
    | child hchild hrest =>
      cases hrest
      cases hchild with | member hmem => simpa using hmem
  obtain ⟨hvalues, -, hstar, -, -, hlists⟩ := traverse_finds_own_values hd "teams.*.wins"
  obtain ⟨-, -, hfirst, -⟩ := traverse_finds_own_values hd "teams.+00.*"
  obtain ⟨-, -, hscalar, -⟩ := traverse_finds_own_values hd "name.*"
  obtain ⟨hbehind, -⟩ := traverse_finds_own_values hd "name.first"
  obtain ⟨-, hone, -⟩ := traverse_finds_own_values hd "teams..1"
  refine ⟨hd, hvalues, ?_, rfl, ?_, rfl, ?_, ?_, hone (by decide), hlists _ _ (by simp [or_comm])⟩
  · exact (hstar ["teams"] ["wins"] (by decide) (by decide)).2.1 _ (.child hteams (.here _))
  · have hzero : Path.IsNumber "+00" 0 := ⟨['+'], by simp, 1, rfl⟩
    exact (hfirst ["teams", "+00"] [] (by decide) (by decide)).1 _
      (.child hteams (.child (.item rfl hzero) (.here _)))
  · refine (hscalar ["name"] [] (by decide) (by decide)).2.2 (fun members h => ?_) fun items h => ?_
    · cases hname _ h
    · cases hname _ h
  · exact (hbehind ("name.first", .null) (List.mem_singleton_self _)).1

end Projection

end RowQuery
