import RowQuery.Proofs.Catalog.OwnFields
import RowQuery.Proofs.Table.RowOrder

/-!
The order of a request over plain sort keys, each of which sorts by the column of its own name: the
terms are those that the ordering parameter spells, with the primary key behind them. Over the keys
that a table gives by itself every term names a column, so ordering never fails.
-/

namespace RowQuery.Sorting

open Outcome

variable {s : Schema} {catalog : Catalog SortKey} {key : String}

/-- Each key of the catalog sorts by the column of its own name. -/
def Plain (catalog : Catalog SortKey) : Prop := ∀ k ∈ catalog.entries, ∃ name, k = .ofName name

lemma plain_ofSchema (s : Schema) : Plain ⟨SortKey.ofSchema s⟩ := by
  intro k hk
  obtain ⟨c, -, -, rfl⟩ := SortKey.mem_ofSchema.mp hk
  exact ⟨c.name, rfl⟩

/-- The keys that are stated by their names, and those that a table gives by itself, are plain. -/
lemma plain_request {d : Dataset} {pairs : List (String × String)} {sortable : Option (List String)}
    (h : (d.request pairs).keyCatalog sortable = .ok catalog) : Plain catalog := by
  intro k hk
  cases sortable with
  | none =>
    have h : Catalog.ofList (SortKey.ofSchema d.schema) = .ok catalog := h
    rw [Catalog.entries_of_ofList h] at hk
    exact plain_ofSchema d.schema k hk
  | some names =>
    have h : Catalog.ofList (names.map SortKey.ofName) = .ok catalog := h
    rw [Catalog.entries_of_ofList h] at hk
    obtain ⟨name, -, rfl⟩ := List.mem_map.mp hk
    exact ⟨name, rfl⟩

/-- A plain key that exists is the term that it spells. -/
lemma keyTerms_ok (hp : Plain catalog) {ts : List OrderTerm} (h : keyTerms catalog key = .ok ts) :
    ts = [OrderTerm.parse key] ∧
      ∃ k ∈ catalog.entries, k.name = (OrderTerm.parse key).source := by
  obtain ⟨k, hk, h⟩ := bind_ok_iff.mp h
  obtain ⟨hmem, hn⟩ := Catalog.get?_some (Catalog.requireKey_ok_iff.mp hk)
  obtain ⟨name, rfl⟩ := hp k hmem
  cases h
  have hn : name = (OrderTerm.parse key).source := hn
  exact ⟨by rw [hn]; rfl, _, hmem, hn⟩

lemma flatten_keyTerms (hp : Plain catalog) {keys : List String} {tss : List (List OrderTerm)}
    (h : List.Forall₂ (fun key ts => keyTerms catalog key = .ok ts) keys tss) :
    tss.flatten = keys.map OrderTerm.parse := by
  induction h with
  | nil => rfl
  | cons hkey _ ih =>
    rw [List.flatten_cons, (keyTerms_ok hp hkey).1, ih]
    rfl

/-- The terms of plain keys are those that the request spells, and each names a key. -/
lemma terms_ok {config : Config} {r : Request} {catalog : Except FilterError (Catalog SortKey)}
    (hd : r.defaultOrdering = none) (hp : ∀ c, catalog = .ok c → Plain c) {ts : List OrderTerm}
    (h : terms config r catalog = .ok ts) :
    ts = (requested config r).map OrderTerm.parse ∧
      ∀ t ∈ ts, ∃ c, catalog = .ok c ∧ ∃ k ∈ c.entries, k.name = t.source := by
  unfold terms needsCatalog at h
  split at h
  · obtain ⟨keys, hk, h⟩ := bind_ok_iff.mp h
    obtain ⟨tss, htss, h⟩ := bind_ok_iff.mp h
    cases h
    have hall := mapM_ok_iff.mp htss
    refine ⟨flatten_keyTerms (hp keys hk) hall, fun t ht => ⟨keys, hk, ?_⟩⟩
    obtain ⟨ts, hts, ht⟩ := List.mem_flatten.mp ht
    obtain ⟨key, -, hkey⟩ := exists_of_mem_right hall ts hts
    obtain ⟨rfl, k, hk, hn⟩ := keyTerms_ok (hp keys hk) hkey
    obtain rfl := List.mem_singleton.mp ht
    exact ⟨k, hk, hn⟩
  · rename_i hnone
    cases h
    have hnil : requested config r = [] := by simpa using hnone
    rw [hd, hnil]
    exact ⟨rfl, by simp⟩

/-- An order that is refused is blamed on the request. -/
lemma effective_isValidation {config : Config} {r : Request} {primaryKey : String} {e : FilterError}
    (h : effective config r (.ok catalog) primaryKey = .error e) : e.isValidation = true := by
  rw [effective, map_error_iff] at h
  rw [terms] at h
  split at h
  · obtain h | ⟨keys, hk, h⟩ := bind_error_iff.mp h
    · cases h
    · obtain h | ⟨_, _, h⟩ := bind_error_iff.mp h
      · obtain ⟨-, key, -, -, -, h⟩ := mapM_error_iff.mp h
        obtain h | ⟨_, _, h⟩ := bind_error_iff.mp h
        · exact Catalog.requireKey_isValidation h
        · cases h
      · cases h
  · cases h

/-- The place of a resolved term is the one that the term means. -/
lemma sortColumn_ok_iff {t : OrderTerm} {c : SortColumn} :
    View.sortColumn s (resolve s.primaryKey t) = .ok c ↔ SortColumn.Means s t c := by
  -- The second name is resolved twice, to no further effect.
  have hname : (if (resolve s.primaryKey t).source = "pk" then s.primaryKey
      else (resolve s.primaryKey t).source) = s.sortName t := by
    by_cases hk : t.source = keyAlias
    · rw [resolve, Schema.sortName, if_pos hk, if_pos hk, ite_self]
    · rw [resolve, Schema.sortName, if_neg hk, if_neg hk]
      exact if_neg hk
  have hdir : (resolve s.primaryKey t).descending = t.descending := by
    rw [resolve]
    split <;> rfl
  rw [View.sortColumn, hname, hdir, SortColumn.Means]
  obtain ⟨index, descending⟩ := c
  cases s.columnIndex? (s.sortName t) with
  | none => simp
  | some i => simp [eq_comm]

/-- Ordering a view sets the places that the sort terms mean. -/
lemma apply_ok_iff {ts : List OrderTerm} {v w : View} : apply ts v = .ok w ↔
    ∃ cs, List.Forall₂ (SortColumn.Means v.table.schema) ts cs ∧ w = { v with ordering := cs } := by
  have heq : apply ts v = (((ts.map (resolve v.table.schema.primaryKey)).mapM
      (View.sortColumn v.table.schema)).map fun cs => { v with ordering := cs }).mapError .store :=
    rfl
  rw [heq, mapError_ok_iff, map_ok_iff]
  simp only [mapM_ok_iff, List.forall₂_map_left_iff, sortColumn_ok_iff]
  exact exists_congr fun cs => and_congr_right fun _ => eq_comm

/-- A view can be ordered by terms that name columns. -/
lemma exists_apply_ok {ts : List OrderTerm} {v : View}
    (h : ∀ t ∈ ts, ∃ i, v.table.schema.columnIndex? (v.table.schema.sortName t) = some i) :
    ∃ w, apply ts v = .ok w := by
  have hcs : ∃ cs, List.Forall₂ (SortColumn.Means v.table.schema) ts cs := by
    induction ts with
    | nil => exact ⟨[], .nil⟩
    | cons t ts ih =>
      obtain ⟨i, hi⟩ := h t (by simp)
      obtain ⟨cs, hcs⟩ := ih fun t ht => h t (by simp [ht])
      exact ⟨⟨i, t.descending⟩ :: cs, .cons ⟨hi, rfl⟩ hcs⟩
  obtain ⟨cs, hcs⟩ := hcs
  exact ⟨_, apply_ok_iff.mpr ⟨cs, hcs, rfl⟩⟩

/-- The terms with the primary key behind them are the given ones and possibly the key. -/
lemma mem_withKey {primaryKey : String} {ts : List OrderTerm} {t : OrderTerm}
    (h : t ∈ withKey primaryKey ts) : t ∈ ts ∨ t = ⟨primaryKey, false⟩ := by
  rw [withKey] at h
  split at h
  · exact .inl h
  · simpa using h

/-- A view can be ordered by terms that name columns and by the primary key behind them. -/
lemma exists_apply_withKey {ts : List OrderTerm} {v : View}
    (hkey : ∃ i, v.table.schema.columnIndex? v.table.schema.primaryKey = some i)
    (hts : ∀ t ∈ ts, ∃ c ∈ v.table.schema.columns, c.name = t.source) :
    ∃ w, apply (withKey v.table.schema.primaryKey ts) v = .ok w := by
  refine exists_apply_ok fun t ht => ?_
  rw [Schema.sortName]
  split
  · exact hkey
  · obtain ht | rfl := mem_withKey ht
    · obtain ⟨c, hc, hn⟩ := hts t ht
      rw [← hn]
      exact Schema.exists_columnIndex? hc
    · exact hkey

/-- Among the terms is one that sorts by the primary key. -/
lemma exists_sortsByKey (primaryKey : String) (ts : List OrderTerm) :
    ∃ t ∈ withKey primaryKey ts, sortsByKey primaryKey t = true := by
  rw [withKey]
  split
  · rename_i hany
    exact List.any_eq_true.mp hany
  · exact ⟨⟨primaryKey, false⟩, by simp, by simp [sortsByKey]⟩

/-- A term that sorts by the primary key means its column, by the name of it or by the second one. -/
lemma sortName_of_sortsByKey {t : OrderTerm} (h : sortsByKey s.primaryKey t = true) :
    s.sortName t = s.primaryKey := by
  rw [Schema.sortName]
  split
  · rfl
  · rename_i hne
    rcases Bool.or_eq_true_iff.mp h with h | h
    · exact beq_iff_eq.mp h
    · exact absurd (beq_iff_eq.mp h) hne

end RowQuery.Sorting
