import RowQuery.Proofs.Catalog.OwnFields
import RowQuery.Proofs.Expression.Written
import RowQuery.Proofs.Pipeline.Sieves
import RowQuery.Proofs.Table.Loading
import RowQuery.Proofs.Table.UniqueKeys

/-!
Operators that negate one another. Two opposite operators take the same operands and ask a field for the
same condition, so one clause can be made ready iff the other one can, and the steps of the two admit
complementary rows (`filterStep_opposite`). Where the keys of a table are unique, the rows of a request
are therefore divided by one more filter and its opposite: `answers_partition`.
-/

namespace RowQuery

open Outcome

/-- The operators ask for one comparison with one operand, and one of them drops what the other keeps. -/
structure Operator.Opposite (a b : Operator) : Prop where
  comparison : b.comparison = a.comparison
  minValues : b.minValues = a.minValues
  maxValues : b.maxValues = a.maxValues
  flag : b.flag = a.flag
  negated : b.negated = !a.negated

lemma Operator.Opposite.symm {a b : Operator} (h : a.Opposite b) : b.Opposite a :=
  ⟨h.comparison.symm, h.minValues.symm, h.maxValues.symm, h.flag.symm, by rw [h.negated, Bool.not_not]⟩

/-- The names of the operators that have an opposite, with it. -/
def Operator.opposites : List (String × String) := [("eq", "ne"), ("like", "unlike"), ("in", "out")]

/-- The names stand for opposite operators, and a colon ends each of them. -/
lemma Operator.opposite_of_mem {name opposite : String} (h : (name, opposite) ∈ opposites) :
    ∃ a b, named? name = some a ∧ named? opposite = some b ∧ ':' ∉ name.toList ∧
      ':' ∉ opposite.toList ∧ a.Opposite b := by
  simp only [opposites, List.mem_cons, List.not_mem_nil, or_false, Prod.mk.injEq] at h
  obtain ⟨rfl, rfl⟩ | ⟨rfl, rfl⟩ | ⟨rfl, rfl⟩ := h
  · exact ⟨_, _, rfl, rfl, by decide, by decide, rfl, rfl, rfl, rfl, rfl⟩
  · exact ⟨_, _, rfl, rfl, by decide, by decide, rfl, rfl, rfl, rfl, rfl⟩
  · exact ⟨_, _, rfl, rfl, by decide, by decide, rfl, rfl, rfl, rfl, rfl⟩

section Opposite

variable {a b : Operator} {name opposite : String}

/-- With opposite operators a field is asked for the same condition. -/
lemma Clause.compile_opposite (h : a.Opposite b) (ha : Operator.named? name = some a)
    (hb : Operator.named? opposite = some b) (hna : ':' ∉ name.toList) (hnb : ':' ∉ opposite.toList)
    {catalog : Catalog Field} {field value : String} {c : Clause}
    (hc : compile catalog field (Expression.written name value) = .ok c) :
    compile catalog field (Expression.written opposite value) = .ok { c with operator := b } ∧
      c.operator = a := by
  obtain ⟨f, hf, hc⟩ := bind_ok_iff.mp hc
  obtain ⟨e, he, hc⟩ := bind_ok_iff.mp hc
  obtain ⟨condition, hcondition, hc⟩ := bind_ok_iff.mp hc
  cases hc
  rw [Expression.parse_written ha hna] at he
  obtain ⟨x, hx, rfl⟩ := map_ok_iff.mp he
  have hlist : b.takesList = a.takesList := by
    rw [Operator.takesList, Operator.takesList, h.maxValues]
  have hx := (Expression.operand?_ok_congr hlist h.minValues h.maxValues h.flag).mpr hx
  refine ⟨bind_ok_iff.mpr ⟨f, hf, bind_ok_iff.mpr ⟨⟨b, x⟩, ?_, ?_⟩⟩, rfl⟩
  · rw [Expression.parse_written hb hnb, hx]
    rfl
  · refine bind_ok_iff.mpr ⟨condition, ?_, rfl⟩
    show f.predicate b.comparison x = .ok condition
    rw [h.comparison]
    exact hcondition

/-- The steps of opposite filters admit complementary rows. -/
lemma Request.filterStep_opposite (h : a.Opposite b) (ha : Operator.named? name = some a)
    (hb : Operator.named? opposite = some b) (hna : ':' ∉ name.toList) (hnb : ':' ∉ opposite.toList)
    {r : Request} {s : Schema} {field value : String} {st : Step}
    (hst : r.filterStep s (field, Expression.written name value) = .ok st) :
    ∃ st', r.filterStep s (field, Expression.written opposite value) = .ok st' ∧
      ∀ row, st'.admits row = !st.admits row := by
  obtain ⟨c, hc, hst⟩ := bind_ok_iff.mp hst
  obtain ⟨fields, hfields, hc⟩ := bind_ok_iff.mp hc
  obtain ⟨hc', hop⟩ := Clause.compile_opposite h ha hb hna hnb hc
  obtain ⟨test, htest, rfl⟩ := map_ok_iff.mp (mapError_ok_iff.mp hst)
  refine ⟨if b.negated then .drop test else .keep test, ?_, fun row => ?_⟩
  · refine bind_ok_iff.mpr ⟨_, bind_ok_iff.mpr ⟨fields, hfields, hc'⟩, ?_⟩
    exact mapError_ok_iff.mpr (map_ok_iff.mpr ⟨test, htest, rfl⟩)
  · rw [hop, h.negated]
    cases a.negated <;> simp [Step.admits]

end Opposite

/-- Where no two keys of a table have one text, two views that show complementary rows of a third one
divide its rows. -/
lemma View.rows_partition {u v w : View} (hv : v.table = u.table) (hw : w.table = u.table)
    (hk : u.table.rows.Pairwise fun a b => u.table.keyText a ≠ u.table.keyText b) {keep : Row → Bool}
    (hvs : ∀ row, v.shows row = (u.shows row && keep row))
    (hws : ∀ row, w.shows row = (u.shows row && !keep row)) :
    (v.rows ++ w.rows).Perm u.rows ∧ List.Disjoint v.rows w.rows := by
  have hvsel : v.selected = (u.table.rows.filter u.shows).filter keep := by
    rw [selected_eq_filter (by rw [hv]; exact hk), hv, List.filter_filter]
    exact List.filter_congr fun row _ => (hvs row).trans (Bool.and_comm _ _)
  have hwsel : w.selected = (u.table.rows.filter u.shows).filter fun row => !keep row := by
    rw [selected_eq_filter (by rw [hw]; exact hk), hw, List.filter_filter]
    exact List.filter_congr fun row _ => (hws row).trans (Bool.and_comm _ _)
  have hvperm : v.rows.Perm v.selected := stableSort_perm _ _
  have hwperm : w.rows.Perm w.selected := stableSort_perm _ _
  have huperm : u.rows.Perm u.selected := stableSort_perm _ _
  constructor
  · refine (hvperm.append hwperm).trans (.trans ?_ huperm.symm)
    rw [hvsel, hwsel, selected_eq_filter hk]
    exact List.filter_append_perm keep _
  · intro row hrow hrow'
    have hrow := hvperm.mem_iff.mp hrow
    have hrow' := hwperm.mem_iff.mp hrow'
    rw [hvsel] at hrow
    rw [hwsel] at hrow'
    have hkeep := (List.mem_filter.mp hrow).2
    have hdrop := (List.mem_filter.mp hrow').2
    rw [hkeep] at hdrop
    cases hdrop

/-- A parameter of another name does not change the last value of a name. -/
lemma lastValue?_insert {before after : List (String × String)} {x : String × String} {name : String}
    (h : x.1 ≠ name) : lastValue? (before ++ [x] ++ after) name = lastValue? (before ++ after) name := by
  simp [lastValue?, List.filter_append, h]

namespace Pipeline

variable {p : Pipeline} {r : Request} {s : Schema} {before after : List (String × String)}
  {x : String × String}

lemma mem_filters_insert (hx : r.isIgnored p.config x.1 = false) {y : String × String} :
    y ∈ (r.withPairs (before ++ [x] ++ after)).filters p.config ↔
      y = x ∨ y ∈ (r.withPairs (before ++ after)).filters p.config := by
  simp only [Request.mem_filters_withPairs, List.mem_append, List.mem_singleton]
  constructor
  · rintro ⟨(hy | rfl) | hy, hi⟩
    · exact .inr ⟨.inl hy, hi⟩
    · exact .inl rfl
    · exact .inr ⟨.inr hy, hi⟩
  · rintro (rfl | ⟨hy | hy, hi⟩)
    · exact ⟨.inl (.inr rfl), hx⟩
    · exact ⟨.inl (.inl hy), hi⟩
    · exact ⟨.inr hy, hi⟩

/-- With one more filter there is a sieve iff there is one without it and the filter means a step. -/
lemma exists_filterSieve_insert (hx : r.isIgnored p.config x.1 = false) :
    (∃ a, p.filterSieve (r.withPairs (before ++ [x] ++ after)) s = .ok a) ↔
      (∃ st, r.filterStep s x = .ok st) ∧
        ∃ b, p.filterSieve (r.withPairs (before ++ after)) s = .ok b := by
  rw [exists_filterSieve_iff, exists_filterSieve_iff]
  simp only [mem_filters_insert hx, forall_eq_or_imp]
  exact .rfl

/-- One more filter lets those rows through that its step admits too. -/
lemma filterSieve_insert_admits (hx : r.isIgnored p.config x.1 = false) {a b : Sieve} {st : Step}
    (ha : p.filterSieve (r.withPairs (before ++ [x] ++ after)) s = .ok a)
    (hb : p.filterSieve (r.withPairs (before ++ after)) s = .ok b) (hst : r.filterStep s x = .ok st)
    (row : Row) : a.admits row = (b.admits row && st.admits row) := by
  rw [Bool.eq_iff_iff, Bool.and_eq_true, filterSieve_admits ha, filterSieve_admits hb]
  simp only [mem_filters_insert hx, forall_eq_or_imp]
  rw [and_comm]
  refine and_congr .rfl ⟨fun h => h st hst, fun h st' hst' => ?_⟩
  have hst' : r.filterStep s x = .ok st' := hst'
  rw [hst] at hst'
  cases hst'
  exact h

section Insert

variable {v w w' : View}

/-- A request with one more filter succeeds iff the request without it does and the filter means a
step. -/
lemma exists_apply_insert (hx : r.isIgnored p.config x.1 = false) (hq : x.1 ≠ p.config.searchParam)
    (ho : x.1 ≠ p.config.orderingParam) :
    (∃ w, p.apply (r.withPairs (before ++ [x] ++ after)) v = .ok w) ↔
      (∃ st, r.filterStep v.table.schema x = .ok st) ∧
        ∃ w, p.apply (r.withPairs (before ++ after)) v = .ok w := by
  simp only [apply_ok_iff, searchSieve_congr (lastValue?_insert hq),
    places_congr (lastValue?_insert ho)]
  constructor
  · rintro ⟨_, a, b, cs, ha, hb, hcs, -⟩
    obtain ⟨hst, a', ha'⟩ := (exists_filterSieve_insert hx).mp ⟨a, ha⟩
    exact ⟨hst, _, a', b, cs, ha', hb, hcs, rfl⟩
  · rintro ⟨hst, _, a', b, cs, ha', hb, hcs, -⟩
    obtain ⟨a, ha⟩ := (exists_filterSieve_insert hx).mpr ⟨hst, a', ha'⟩
    exact ⟨_, a, b, cs, ha, hb, hcs, rfl⟩

/-- One more filter shows those rows that its step admits too. -/
lemma shows_insert (hx : r.isIgnored p.config x.1 = false) (hq : x.1 ≠ p.config.searchParam)
    (hw' : p.apply (r.withPairs (before ++ [x] ++ after)) v = .ok w')
    (hw : p.apply (r.withPairs (before ++ after)) v = .ok w) {st : Step}
    (hst : r.filterStep v.table.schema x = .ok st) :
    w'.table = w.table ∧ ∀ row, w'.shows row = (w.shows row && st.admits row) := by
  obtain ⟨a', b', cs', ha', hb', -, rfl⟩ := apply_ok_iff.mp hw'
  obtain ⟨a, b, cs, ha, hb, -, rfl⟩ := apply_ok_iff.mp hw
  rw [searchSieve_congr (lastValue?_insert hq), hb] at hb'
  cases hb'
  refine ⟨rfl, fun row => ?_⟩
  show ((v.sift a').sift b').shows row = (((v.sift a).sift b').shows row && st.admits row)
  rw [View.shows_sift, View.shows_sift, View.shows_sift, View.shows_sift,
    filterSieve_insert_admits hx ha' ha hst]
  simp only [Bool.and_assoc, Bool.and_comm (st.admits row)]

end Insert

/-- Where no two primary keys of the table have one text, the rows of a request are divided by one more
filter and its opposite, unless both are refused: each row is shown for exactly one of the two. -/
theorem answers_partition (p : Pipeline) (r : Request) {v : View}
    (hk : v.table.rows.Pairwise fun a b => v.table.keyText a ≠ v.table.keyText b)
    {field name opposite : String} (hi : r.isIgnored p.config field = false)
    (hq : field ≠ p.config.searchParam) (ho : field ≠ p.config.orderingParam)
    (hn : (name, opposite) ∈ Operator.opposites) (value : String)
    (before after : List (String × String)) :
    let answer (filters : List (String × String)) :=
      p.apply (r.withPairs (before ++ filters ++ after)) v
    (∃ e e', answer [(field, Expression.written name value)] = .error e ∧
      answer [(field, Expression.written opposite value)] = .error e') ∨
    ∃ w kept dropped, answer [] = .ok w ∧
      answer [(field, Expression.written name value)] = .ok kept ∧
      answer [(field, Expression.written opposite value)] = .ok dropped ∧
      (kept.rows ++ dropped.rows).Perm w.rows ∧ List.Disjoint kept.rows dropped.rows := by
  obtain ⟨a, b, ha, hb, hna, hnb, hop⟩ := Operator.opposite_of_mem hn
  intro answer
  have hplain : answer [] = p.apply (r.withPairs (before ++ after)) v := by
    show p.apply (r.withPairs (before ++ [] ++ after)) v = _
    rw [List.append_nil]
  have hadd (filter : String) : (∃ w, answer [(field, filter)] = .ok w) ↔
      (∃ st, r.filterStep v.table.schema (field, filter) = .ok st) ∧ ∃ w, answer [] = .ok w := by
    rw [hplain]
    exact exists_apply_insert (x := (field, filter)) hi hq ho
  by_cases hok : ∃ w, answer [(field, Expression.written name value)] = .ok w
  · obtain ⟨kept, hkept⟩ := hok
    obtain ⟨⟨st, hst⟩, w, hw⟩ := (hadd _).mp ⟨kept, hkept⟩
    obtain ⟨st', hst', hadmits⟩ := Request.filterStep_opposite hop ha hb hna hnb hst
    obtain ⟨dropped, hdropped⟩ := (hadd _).mpr ⟨⟨st', hst'⟩, w, hw⟩
    refine .inr ⟨w, kept, dropped, hw, hkept, hdropped, ?_⟩
    rw [hplain] at hw
    obtain ⟨hkt, hks⟩ := shows_insert hi hq hkept hw hst
    obtain ⟨hdt, hds⟩ := shows_insert hi hq hdropped hw hst'
    refine View.rows_partition hkt hdt ?_ hks fun row => by rw [hds, hadmits]
    obtain ⟨_, _, _, -, -, -, rfl⟩ := apply_ok_iff.mp hw
    exact hk
  · refine .inl ?_
    have hnot : ¬∃ w, answer [(field, Expression.written opposite value)] = .ok w := by
      intro hdropped
      obtain ⟨⟨st', hst'⟩, hw⟩ := (hadd _).mp hdropped
      obtain ⟨st, hst, -⟩ := Request.filterStep_opposite hop.symm hb ha hnb hna hst'
      exact hok ((hadd _).mpr ⟨⟨st, hst⟩, hw⟩)
    obtain ⟨e, he⟩ := exists_error_iff.mpr hok
    obtain ⟨e', he'⟩ := exists_error_iff.mpr hnot
    exact ⟨e, e', he, he'⟩

/-- The request for the cities, in the fields that the table gives by itself. -/
def citiesRequest : Request := { params := .empty, output := Dataset.cities.output }

/-- A city without a name is on the side of the negated operator. -/
theorem cities_answers_partition : ∃ t, Dataset.cities.table = .ok t ∧
    t.rows.Pairwise (fun a b => t.keyText a ≠ t.keyText b) ∧
    citiesRequest.isIgnored .usual "name" = false ∧ "name" ≠ Config.usual.searchParam ∧
    "name" ≠ Config.usual.orderingParam ∧ ("like", "unlike") ∈ Operator.opposites ∧
    let answer (filters : List (String × String)) :=
      apply ⟨.usual, none⟩ (citiesRequest.withPairs ([("id", "ge:1")] ++ filters ++ [("q", "2")]))
        (View.ofTable t)
    (∃ e e', answer [("name", Expression.written "like" "RO")] = .error e ∧
      answer [("name", Expression.written "unlike" "RO")] = .error e') ∨
    ∃ w kept dropped, answer [] = .ok w ∧
      answer [("name", Expression.written "like" "RO")] = .ok kept ∧
      answer [("name", Expression.written "unlike" "RO")] = .ok dropped ∧
      (kept.rows ++ dropped.rows).Perm w.rows ∧ List.Disjoint kept.rows dropped.rows := by
  let t : Table := ⟨Dataset.cities.schema, [[.int 2, .string "Rome"], [.int 1, .null]]⟩
  have hk : t.rows.Pairwise fun a b => t.keyText a ≠ t.keyText b := by decide
  exact ⟨t, Dataset.cities_table, hk, by decide, by decide, by decide, by decide,
    answers_partition (v := View.ofTable t) ⟨.usual, none⟩ citiesRequest hk (by decide) (by decide)
      (by decide) (by decide) "RO" [("id", "ge:1")] [("q", "2")]⟩

end Pipeline

end RowQuery
