import Mathlib.Data.List.Pairwise
import RowQuery.Proofs.Filter.Lists
import RowQuery.Proofs.Pipeline.Answer
import RowQuery.Proofs.Pipeline.Complement
import RowQuery.Proofs.Table.Narrowing

/-!
Showing each primary key once. Rows are told apart by the texts of their keys, and a column of texts can
hold the text of null. That is the only way in which different keys have one text
(`ColumnKind.Admits.text_inj`), so where the keys of a table are different no row is lost iff these two do
not meet in it (`KeysCollide`), and then no row is lost by a filter either that every row satisfies:
`loses_no_row_iff`.
-/

namespace RowQuery

open Outcome

namespace Table

/-- The key of one row is null and that of another one the text of null. -/
def KeysCollide (t : Table) : Prop :=
  (∃ a ∈ t.rows, t.keyCell a = .null) ∧ ∃ b ∈ t.rows, t.keyCell b = .string Value.null.text

instance (t : Table) : Decidable t.KeysCollide := inferInstanceAs (Decidable (_ ∧ _))

variable {t : Table}

/-- Different keys have different texts iff they do not collide. -/
lemma keyText_pairwise_iff (ha : ∀ row ∈ t.rows, t.schema.Admits row)
    (hk : t.rows.Pairwise fun a b => t.keyCell a ≠ t.keyCell b) :
    (t.rows.Pairwise fun a b => t.keyText a ≠ t.keyText b) ↔ ¬t.KeysCollide := by
  constructor
  · rintro hne ⟨⟨a, hamem, hnull⟩, b, hbmem, htext⟩
    have hab : a ≠ b := by
      rintro rfl
      rw [hnull] at htext
      cases htext
    have hsymm : Std.Symm fun a b => t.keyText a ≠ t.keyText b := ⟨fun _ _ h => h.symm⟩
    refine hne.forall hamem hbmem hab ?_
    show (t.keyCell a).text = (t.keyCell b).text
    rw [hnull, htext]
    rfl
  · intro hfree
    obtain ⟨kind, hkind⟩ := SortColumn.exists_admits t.schema t.keyIndex
    refine hk.imp_of_mem fun {a b} hamem hbmem hne htext => ?_
    obtain heq | ⟨hnull, hstring⟩ | ⟨hstring, hnull⟩ :=
      (hkind a (ha a hamem)).text_inj (hkind b (ha b hbmem)) htext
    · exact hne heq
    · exact hfree ⟨⟨a, hamem, hnull⟩, b, hbmem, hstring⟩
    · exact hfree ⟨⟨b, hbmem, hnull⟩, a, hamem, hstring⟩

/-- The step of a clause that keeps every row of a table admits each of them. -/
lemma exists_step_of_keep {c : Clause} (h : t.keep c = .ok t.rows) :
    ∃ st, c.reportedStep t.schema = .ok st ∧ ∀ row ∈ t.rows, st.admits row = true := by
  obtain ⟨v, hv, hrows⟩ := map_ok_iff.mp h
  rw [Clause.apply_eq] at hv
  obtain ⟨st, hst, rfl⟩ := map_ok_iff.mp hv
  refine ⟨st, hst, fun row hrow => ?_⟩
  rw [View.rows_of_unordered rfl] at hrows
  have hfilter : (t.rows.filter fun row => [st].all (Step.admits row)) = t.rows := hrows
  simpa using List.filter_eq_self.mp hfilter row hrow

end Table

namespace View

variable {v w : View}

/-- Where different rows have different texts of their keys, showing each key once changes nothing. -/
lemma rows_distinct (h : v.table.rows.Pairwise fun a b => v.table.keyText a ≠ v.table.keyText b) :
    (DataSource.distinct v).rows = v.rows := by
  have hselected : (DataSource.distinct v).selected = v.selected := by
    rw [selected_eq_filter h, selected_eq_filter (v := DataSource.distinct v) h]
    rfl
  rw [rows, hselected]
  rfl

/-- If a table shows as many rows when each key is shown once, different rows have different texts of
their keys. -/
lemma keyText_pairwise_of_distinct {t : Table}
    (h : (DataSource.distinct (ofTable t)).rows = (ofTable t).rows) :
    t.rows.Pairwise fun a b => t.keyText a ≠ t.keyText b := by
  rw [rows_of_unordered rfl, rows_of_unordered rfl, selected_eq, selected_eq] at h
  have hall : t.rows.filter (ofTable t).shows = t.rows := List.filter_eq_self.mpr (by simp)
  have h : firstOfEach t.keyText [] (t.rows.filter (ofTable t).shows) =
      t.rows.filter (ofTable t).shows := h
  rw [hall] at h
  rw [← h]
  exact firstOfEach_pairwise [] t.rows

end View

/-- A table with a row without a word and a row with a word that reads like none. -/
def Dataset.words : Dataset where
  schema := ⟨"words", "word", [⟨"word", .text⟩, ⟨"length", .integer⟩]⟩
  rows := [[("length", .integer 0)], [("length", .integer 4), ("word", .string "NULL")]]

namespace Pipeline

variable {d : Dataset} {t : Table} {p : Pipeline} {r : Request} {v w w' : View}
  {before after : List (String × String)} {x : String × String}

lemma ordering_insert (ho : x.1 ≠ p.config.orderingParam)
    (hw' : p.apply (r.withPairs (before ++ [x] ++ after)) v = .ok w')
    (hw : p.apply (r.withPairs (before ++ after)) v = .ok w) : w'.ordering = w.ordering := by
  obtain ⟨_, _, cs', -, -, hcs', rfl⟩ := apply_ok_iff.mp hw'
  obtain ⟨_, _, cs, -, -, hcs, rfl⟩ := apply_ok_iff.mp hw
  rw [places_congr (lastValue?_insert ho), hcs] at hcs'
  cases hcs'
  rfl

/-- One more filter that each row of the table satisfies changes no row of a request, where different rows
have different texts of their keys. -/
lemma rows_insert (hx : r.isIgnored p.config x.1 = false) (hq : x.1 ≠ p.config.searchParam)
    (ho : x.1 ≠ p.config.orderingParam) {c : Clause} (hc : r.clause x = .ok c)
    (hkeep : v.table.keep c = .ok v.table.rows)
    (hne : v.table.rows.Pairwise fun a b => v.table.keyText a ≠ v.table.keyText b)
    (hw : p.apply (r.withPairs (before ++ after)) v = .ok w) :
    ∃ w', p.apply (r.withPairs (before ++ [x] ++ after)) v = .ok w' ∧ w'.rows = w.rows := by
  obtain ⟨st, hst, hadmits⟩ := Table.exists_step_of_keep hkeep
  have hst : r.filterStep v.table.schema x = .ok st := bind_ok_iff.mpr ⟨c, hc, hst⟩
  obtain ⟨w', hw'⟩ := (exists_apply_insert hx hq ho).mpr ⟨⟨st, hst⟩, w, hw⟩
  obtain ⟨htable, hshows⟩ := shows_insert hx hq hw' hw hst
  have hwtable : w.table = v.table := by
    obtain ⟨_, _, _, -, -, -, rfl⟩ := apply_ok_iff.mp hw
    rfl
  -- One of the two may show each key once and the other one not, to no effect.
  have hselected : w'.selected = w.selected := by
    rw [View.selected_eq_filter (by rwa [htable, hwtable]), View.selected_eq_filter (by rwa [hwtable]),
      htable]
    refine List.filter_congr fun row hrow => ?_
    rw [hshows, hadmits row (hwtable ▸ hrow), Bool.and_true]
  refine ⟨w', hw', ?_⟩
  rw [View.rows, View.rows, hselected, ordering_insert ho hw' hw]

/-- Where the primary keys of a table are different values, showing each key once loses a row of some view
iff one key is null and another one is the text of null. Otherwise a filter that every row satisfies
changes no row of what a request shows either. -/
theorem loses_no_row_iff (hb : d.Bounded) (ht : d.table = .ok t)
    (hk : t.rows.Pairwise fun a b => t.keyCell a ≠ t.keyCell b) :
    ((∀ calls v, Call.applyAll calls (View.ofTable t) = .ok v →
      (DataSource.distinct v).rows = v.rows) ↔ ¬t.KeysCollide) ∧
    (¬t.KeysCollide → ∀ (p : Pipeline) (r : Request) calls v x c before after w,
      Call.applyAll calls (View.ofTable t) = .ok v →
      r.isIgnored p.config x.1 = false → x.1 ≠ p.config.searchParam →
      x.1 ≠ p.config.orderingParam → r.clause x = .ok c → t.keep c = .ok t.rows →
      p.apply (r.withPairs (before ++ after)) v = .ok w →
      ∃ w', p.apply (r.withPairs (before ++ [x] ++ after)) v = .ok w' ∧ w'.rows = w.rows) := by
  have hiff := Table.keyText_pairwise_iff (Dataset.table_admits ht hb) hk
  refine ⟨⟨fun h => ?_, fun hfree calls v hv => ?_⟩, ?_⟩
  · -- The view of the whole table is one of the views.
    exact hiff.mp (View.keyText_pairwise_of_distinct (h [] _ rfl))
  · refine View.rows_distinct ?_
    rw [View.applyAll_table hv]
    exact hiff.mpr hfree
  · intro hfree p r calls v x c before after w hv hx hq ho hc hkeep hw
    have htable : v.table = t := View.applyAll_table hv
    refine rows_insert hx hq ho hc ?_ ?_ hw
    · rw [htable]
      exact hkeep
    · rw [htable]
      exact hiff.mpr hfree

/-- The cities from the number 0 on are all of them, and the request shows them as before. -/
theorem cities_loses_no_row : Dataset.cities.Bounded ∧ ∃ t, Dataset.cities.table = .ok t ∧
    (t.rows.Pairwise fun a b => t.keyCell a ≠ t.keyCell b) ∧ ¬t.KeysCollide ∧
    (∀ calls v, Call.applyAll calls (View.ofTable t) = .ok v →
      (DataSource.distinct v).rows = v.rows) ∧
    ∃ v c w w', Call.applyAll [.exclude (.lookup ⟨"name", .exact, .scalar "Rome"⟩)]
        (View.ofTable t) = .ok v ∧
      citiesRequest.clause ("id", "ge:0") = .ok c ∧ t.keep c = .ok t.rows ∧
      apply ⟨.usual, none⟩ (citiesRequest.withPairs [("ordering", "name")]) v = .ok w ∧
      apply ⟨.usual, none⟩ (citiesRequest.withPairs [("id", "ge:0"), ("ordering", "name")]) v =
        .ok w' ∧ w'.rows = w.rows := by
  let t : Table := ⟨Dataset.cities.schema, [[.int 2, .string "Rome"], [.int 1, .null]]⟩
  have hk : t.rows.Pairwise fun a b => t.keyCell a ≠ t.keyCell b := by decide
  have hfree : ¬t.KeysCollide := by decide
  obtain ⟨hiff, hfilter⟩ := loses_no_row_iff (t := t) (by decide) Dataset.cities_table hk
  obtain ⟨v, hv, w, hw⟩ : ∃ v,
      Call.applyAll [.exclude (.lookup ⟨"name", .exact, .scalar "Rome"⟩)] (View.ofTable t) = .ok v ∧
      ∃ w, apply ⟨.usual, none⟩ (citiesRequest.withPairs [("ordering", "name")]) v = .ok w :=
    ⟨_, rfl, _, bind_ok_iff.mpr ⟨_, rfl, bind_ok_iff.mpr
      ⟨_, applySearch_eq_self (d := Dataset.cities) _ rfl _ _, rfl⟩⟩⟩
  obtain ⟨c, hc, hkeep⟩ : ∃ c, citiesRequest.clause ("id", "ge:0") = .ok c ∧
      t.keep c = .ok t.rows := ⟨_, rfl, rfl⟩
  obtain ⟨w', hw', hrows⟩ := hfilter hfree ⟨.usual, none⟩ citiesRequest _ v ("id", "ge:0") c []
    [("ordering", "name")] w hv (by decide) (by decide) (by decide) hc hkeep hw
  exact ⟨by decide, t, Dataset.cities_table, hk, hfree, hiff.mpr hfree, v, c, w, w', hv, hc, hkeep,
    hw, hw', hrows⟩

/-- The keys of the words are different, but showing each key once loses one of them, and so does a filter
that both of them satisfy. -/
theorem words_loses_row : Dataset.words.schema.Distinct ∧ Dataset.words.Bounded ∧
    ∃ t, Dataset.words.table = .ok t ∧
      (t.rows.Pairwise fun a b => t.keyCell a ≠ t.keyCell b) ∧
      (DataSource.distinct (View.ofTable t)).rows ≠ (View.ofTable t).rows ∧
      ∃ c w w', (Dataset.words.request []).clause ("length", "ge:0") = .ok c ∧
        t.keep c = .ok t.rows ∧
        apply ⟨.usual, none⟩ (Dataset.words.request []) (View.ofTable t) = .ok w ∧
        apply ⟨.usual, none⟩ (Dataset.words.request [("length", "ge:0")]) (View.ofTable t) = .ok w' ∧
        w.rows.length = 2 ∧ w'.rows.length = 1 := by
  have ht : Dataset.words.table =
      .ok ⟨Dataset.words.schema, [[.null, .int 0], [.string "NULL", .int 4]]⟩ := rfl
  refine ⟨by decide, by decide, _, ht, by decide, by decide, _, _, _, rfl, rfl,
    bind_ok_iff.mpr ⟨_, rfl, bind_ok_iff.mpr ⟨_, applySearch_eq_self _ rfl _ _, rfl⟩⟩,
    bind_ok_iff.mpr ⟨_, rfl, bind_ok_iff.mpr ⟨_, applySearch_eq_self _ rfl _ _, rfl⟩⟩,
    by decide, by decide⟩

end Pipeline

end RowQuery
