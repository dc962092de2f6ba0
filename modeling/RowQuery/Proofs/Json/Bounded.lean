import RowQuery.Json.Reader
import RowQuery.Proofs.Json.Members
import RowQuery.Proofs.Value.Typed

/-!
The numbers that documents hold. A number literal is an integer of at most 64 bits or a floating-point
number that is finite, if it has a value at all. So the numbers of every document that is read are
bounded (`readDocument?_bounded`), and so are those of its value.
-/

namespace RowQuery.Json

open Numeric (Binary64)

/-- What a walk over a list yields, it yields for an element of the list. -/
lemma exists_of_mem_mapM {α β : Type} {f : α → Option β} {xs : List α} {ys : List β}
    (h : xs.mapM f = some ys) : ∀ y ∈ ys, ∃ x ∈ xs, f x = some y := by
  induction xs generalizing ys with
  | nil =>
    cases h
    exact nofun
  | cons x xs ih =>
    rw [List.mapM_cons] at h
    obtain ⟨y, hy, h⟩ := Option.bind_eq_some_iff.mp h
    obtain ⟨zs, hzs, h⟩ := Option.bind_eq_some_iff.mp h
    cases h
    refine List.forall_mem_cons.mpr ⟨⟨x, by simp, hy⟩, fun z hz => ?_⟩
    obtain ⟨w, hw, h⟩ := ih hzs z hz
    exact ⟨w, List.mem_cons_of_mem x hw, h⟩

namespace NumberText

/-- The place of a finite number among the finite ones. -/
def rank? : Binary64 → Option ℕ
  | .finite _ r _ => some r
  | _ => none

/-- A number that is scaled is finite. -/
lemma scaleByTen?_lt {fuel rank r : ℕ} {power : ℤ} (h : scaleByTen? fuel rank power = some r) :
    r < Numeric.rankLimit := by
  have hrank {x : Binary64} {r : ℕ} (h : rank? x = some r) : r < Numeric.rankLimit := by
    cases x with
    | finite negative s hs =>
      cases h
      exact hs
    | nan => cases h
    | infinite negative => cases h
  have hzero : 0 < Numeric.rankLimit := by decide
  induction fuel generalizing rank power with
  | zero =>
    rw [scaleByTen?] at h
    dsimp only at h
    split_ifs at h
    · exact hrank h
    · exact hrank h
    · cases h
      exact hzero
    · cases h
      exact hzero
  | succ fuel ih =>
    rw [scaleByTen?] at h
    dsimp only at h
    split_ifs at h
    · exact hrank h
    · exact hrank h
    · cases h
      exact hzero
    · obtain ⟨s, -, hs⟩ := Option.bind_eq_some_iff.mp h
      exact ih hs

/-- The value of a number literal is finite. -/
lemma float?_isFinite {t : NumberText} {x : Binary64} (h : t.float? = some x) :
    x.isFinite = true := by
  rw [float?] at h
  dsimp only at h
  split at h
  · obtain ⟨r, hr, rfl⟩ := Option.map_eq_some_iff.mp h
    rw [Binary64.ofRank, dif_pos (scaleByTen?_lt hr)]
    rfl
  · cases h

end NumberText

namespace Document

/-- Every number of the document is bounded. -/
inductive Bounded : Document → Prop where
  | null : Bounded null
  | bool (b : Bool) : Bounded (bool b)
  | integer {n : Int} : (Json.integer n).Bounded → Bounded (integer n)
  | float {x : Option Binary64} : (∀ y ∈ x, (Json.float y).Bounded) → Bounded (float x)
  | string (s : Option String) : Bounded (string s)
  | array {items : List Document} : (∀ d ∈ items, Bounded d) → Bounded (array items)
  | object {members : List (Option String × Document)} :
      (∀ m ∈ members, Bounded m.2) → Bounded (object members)

variable {d : Document} {cs rest : List Char}

/-- A number literal stands for a bounded number. -/
lemma ofNumber_bounded (t : NumberText) (written : Bool) : (ofNumber t written).Bounded := by
  have hfloat : (Document.float t.float?).Bounded :=
    .float fun y hy => NumberText.float?_isFinite hy
  unfold ofNumber
  dsimp only
  split_ifs with hw hpos hneg
  · obtain ⟨-, hle⟩ := Bool.and_eq_true_iff.mp hpos
    have hle := of_decide_eq_true hle
    refine .integer ⟨?_, Int.ofNat_le.mpr hle⟩
    rw [Numeric.minInt64]
    omega
  · obtain ⟨-, hle⟩ := Bool.and_eq_true_iff.mp hneg
    have hle := of_decide_eq_true hle
    refine .integer ⟨?_, ?_⟩
    · rw [Numeric.minInt64]
      omega
    · rw [Numeric.maxNat64]
      omega
  · exact hfloat
  · exact hfloat

lemma readNumber?_bounded {negative : Bool} (h : readNumber? negative cs = some (d, rest)) :
    d.Bounded := by
  obtain ⟨_, -, h⟩ := Option.bind_eq_some_iff.mp h
  obtain ⟨_, -, h⟩ := Option.bind_eq_some_iff.mp h
  obtain ⟨_, -, h⟩ := Option.bind_eq_some_iff.mp h
  cases h
  exact ofNumber_bounded _ _

/-- Whatever is read from a text has bounded numbers: a value, the items of an array, and the members
of an object. -/
lemma read_bounded (fuel : ℕ) :
    (∀ cs d rest, readValue? fuel cs = some (d, rest) → d.Bounded) ∧
    (∀ cs items rest, readItems? fuel cs = some (items, rest) → ∀ d ∈ items, d.Bounded) ∧
    ∀ cs members rest, readMembers? fuel cs = some (members, rest) → ∀ m ∈ members, m.2.Bounded := by
  induction fuel with
  | zero => exact ⟨nofun, nofun, nofun⟩
  | succ fuel ih =>
    obtain ⟨hvalue, hitems, hmembers⟩ := ih
    -- Each of the three readers calls the others with less fuel.
    refine ⟨fun cs d rest h => ?_, fun cs items rest h => ?_, fun cs members rest h => ?_⟩
    · rw [readValue?] at h
      split at h
      · cases h
        exact .null
      · cases h
        exact .bool true
      · cases h
        exact .bool false
      · obtain ⟨_, -, h⟩ := Option.map_eq_some_iff.mp h
        cases h
        exact .string _
      · exact readNumber?_bounded h
      · split at h
        · cases h
          exact .array nofun
        · obtain ⟨_, hread, h⟩ := Option.map_eq_some_iff.mp h
          cases h
          exact .array (hitems _ _ _ hread)
      · split at h
        · cases h
          exact .object nofun
        · obtain ⟨_, hread, h⟩ := Option.map_eq_some_iff.mp h
          cases h
          exact .object (hmembers _ _ _ hread)
      · exact readNumber?_bounded h
    · rw [readItems?] at h
      split at h
      · cases h
      · rename_i value rest' hread
        split at h
        · cases h
          exact List.forall_mem_singleton.mpr (hvalue _ _ _ hread)
        · obtain ⟨_, hrest, h⟩ := Option.map_eq_some_iff.mp h
          cases h
          exact List.forall_mem_cons.mpr ⟨hvalue _ _ _ hread, hitems _ _ _ hrest⟩
        · cases h
    · rw [readMembers?] at h
      split at h
      · split at h
        · cases h
        · split at h
          · split at h
            · cases h
            · rename_i value rest' hread
              split at h
              · cases h
                exact List.forall_mem_singleton.mpr (hvalue _ _ _ hread)
              · obtain ⟨_, hrest, h⟩ := Option.map_eq_some_iff.mp h
                cases h
                exact List.forall_mem_cons.mpr ⟨hvalue _ _ _ hread, hmembers _ _ _ hrest⟩
              · cases h
          · cases h
      · cases h

/-- The numbers of a document that is read are bounded. -/
lemma readDocument?_bounded {text : String} (h : readDocument? text = some d) : d.Bounded := by
  obtain ⟨⟨d', rest⟩, hread, h⟩ := Option.bind_eq_some_iff.mp h
  obtain ⟨-, h⟩ := Option.ite_none_right_eq_some.mp h
  cases h
  exact (read_bounded _).1 _ _ _ hread

/-- The value of a document is one of its numbers, or no number. -/
lemma value?_bounded {depth : ℕ} {json : Json} (hd : d.Bounded) (h : d.value? depth = some json) :
    json.Bounded := by
  cases hd with
  | null | bool =>
    cases h
    trivial
  | string =>
    obtain ⟨_, -, rfl⟩ := Option.map_eq_some_iff.mp h
    trivial
  | integer hn =>
    cases h
    exact hn
  | float hx =>
    obtain ⟨y, hy, rfl⟩ := Option.map_eq_some_iff.mp h
    exact hx y hy
  | array | object =>
    cases depth with
    | zero => cases h
    | succ depth =>
      obtain ⟨_, -, rfl⟩ := Option.map_eq_some_iff.mp h
      trivial

lemma members?_bounded {depth : ℕ} {written : List (Option String × Document)}
    {members : List (String × Json)} (hw : ∀ m ∈ written, m.2.Bounded)
    (h : members? depth written = some members) : ∀ m ∈ members, m.2.Bounded := by
  induction written generalizing members with
  | nil =>
    cases h
    exact nofun
  | cons m rest ih =>
    obtain ⟨key, -, h⟩ := Option.bind_eq_some_iff.mp h
    obtain ⟨json, hjson, h⟩ := Option.bind_eq_some_iff.mp h
    obtain ⟨others, hothers, h⟩ := Option.bind_eq_some_iff.mp h
    cases h
    obtain ⟨hm, hrest⟩ := List.forall_mem_cons.mp hw
    exact List.forall_mem_cons.mpr ⟨value?_bounded hm hjson, ih hrest hothers⟩

/-- The documents that a record has under names are parts of it. -/
lemma fields?_bounded {names : List String} {fields : List (Option Document)} (hd : d.Bounded)
    (h : d.fields? names = some fields) : ∀ field ∈ fields, ∀ e ∈ field, e.Bounded := by
  cases hd with
  | object hm =>
    obtain ⟨named, hnamed, h⟩ := Option.bind_eq_some_iff.mp h
    have hnamed : ∀ m ∈ named, m.2.Bounded := by
      intro m hmem
      obtain ⟨w, hw, hkey⟩ := exists_of_mem_mapM hnamed m hmem
      obtain ⟨key, -, rfl⟩ := Option.map_eq_some_iff.mp hkey
      exact hm w hw
    intro field hfield e he
    obtain ⟨name, -, hname⟩ := exists_of_mem_mapM h field hfield
    split at hname
    · cases hname
      cases he
    · rename_i key found hfound
      cases hname
      cases he
      have hmem : (key, e) ∈ named.filter fun m => m.1 == name := hfound ▸ List.mem_cons_self
      exact hnamed _ (List.mem_of_mem_filter hmem)
    · cases hname
  -- A record that is written as an array has its fields by their places.
  | array hi =>
    obtain ⟨-, h⟩ := Option.ite_none_left_eq_some.mp h
    cases h
    intro field hfield e he
    rcases List.mem_append.mp hfield with hfield | hfield
    · obtain ⟨item, hmem, rfl⟩ := List.mem_map.mp hfield
      cases he
      exact hi e hmem
    · rw [(List.mem_replicate.mp hfield).2] at he
      cases he
  | null | bool | string | integer | float => cases h

lemma items?_bounded {items : List Document} (hd : d.Bounded) (h : d.items? = some items) :
    ∀ item ∈ items, item.Bounded := by
  cases hd with
  | array hi =>
    cases h
    exact hi
  | null | bool | string | integer | float | object => cases h

/-- Only a document that writes an object has an object as its value, made of the written members. -/
lemma exists_written_of_value? {depth : ℕ} {members : List (String × Json)}
    (h : d.value? depth = some (.object members)) : ∃ depth' written given,
      d = object written ∧ members? depth' written = some given ∧ members = sortMembers given := by
  cases d with
  | object written =>
    cases depth with
    | zero => cases h
    | succ depth =>
      obtain ⟨given, hgiven, h⟩ := Option.map_eq_some_iff.mp h
      cases h
      exact ⟨depth, written, given, rfl, hgiven, rfl⟩
  | array items =>
    cases depth with
    | zero => cases h
    | succ depth =>
      obtain ⟨_, -, h⟩ := Option.map_eq_some_iff.mp h
      cases h
  | string s | float x =>
    obtain ⟨_, -, h⟩ := Option.map_eq_some_iff.mp h
    cases h
  | null | bool b | integer n => cases h

/-- The members of an object that a document writes are some of those of the document. -/
lemma object_bounded {depth : ℕ} {members : List (String × Json)} (hd : d.Bounded)
    (h : d.value? depth = some (.object members)) : ∀ m ∈ members, m.2.Bounded := by
  obtain ⟨_, written, given, rfl, hgiven, rfl⟩ := exists_written_of_value? h
  cases hd with
  | object hm => exact fun m hmem => members?_bounded hm hgiven m (mem_of_mem_sortMembers hmem)

/-- The keys of an object that a document writes ascend. -/
lemma object_ascending {depth : ℕ} {members : List (String × Json)}
    (h : d.value? depth = some (.object members)) : Ascending members := by
  obtain ⟨_, _, given, -, -, rfl⟩ := exists_written_of_value? h
  exact ascending_sortMembers given

end Document

end RowQuery.Json
