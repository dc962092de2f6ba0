import RowQuery.Proofs.Catalog.OwnFields
import RowQuery.Proofs.Pipeline.Sieves

/-!
Compiling filters. What one of them becomes by itself, the clause of the field of its name or the first
thing that is wrong with it, is `Clause.Compiled`. Compiling the filters of a request makes a clause of
each of them, in order, or fails for the first that is wrong, and it asks for the catalog only if there
is a filter: `compile_all_or_nothing`.
-/

namespace RowQuery

open Outcome

/-- What an expression for the field of a name becomes by itself. -/
inductive Clause.Compiled (fields : List Field) (name text : String) :
    Except FilterError Clause → Prop where
  | unknown : (∀ f ∈ fields, f.name ≠ name) →
    Compiled fields name text (.error (.unknownField name (fields.map Field.name)))
  | unread {f : Field} {e : FilterError} : f ∈ fields → f.name = name →
    Expression.parse name text = .error e → Compiled fields name text (.error e)
  | refused {f : Field} {x : Expression} {e : FilterError} : f ∈ fields → f.name = name →
    Expression.parse name text = .ok x → f.predicate x.operator.comparison x.operand = .error e →
    Compiled fields name text (.error e)
  | clause {f : Field} {x : Expression} {p : Predicate} : f ∈ fields → f.name = name →
    Expression.parse name text = .ok x → f.predicate x.operator.comparison x.operand = .ok p →
    Compiled fields name text (.ok ⟨name, x.operator, p⟩)

/-- A name without a field is reported with all names that there are. -/
lemma Catalog.require_of_unknown {catalog : Catalog Field} {name : String}
    (h : ∀ f ∈ catalog.entries, f.name ≠ name) :
    catalog.require name = .error (.unknownField name catalog.names) := by
  have hnone : catalog.get? name = none := get?_eq_none h
  rw [require, hnone]

namespace Clause

variable {fields : List Field} {catalog : Catalog Field} {name text : String}

/-- An expression that is not read makes no clause. -/
lemma compile_of_unread {f : Field} (hf : catalog.get? f.name = some f) {e : FilterError}
    (he : Expression.parse f.name text = .error e) : compile catalog f.name text = .error e := by
  rw [compile, Catalog.require_ok_iff.mpr hf]
  show (Expression.parse f.name text >>= _) = _
  rw [he]
  rfl

/-- Without a field of its name an expression is nothing else than unknown. -/
lemma Compiled.of_unknown {outcome : Except FilterError Clause} (h : Compiled fields name text outcome)
    (hname : name ∉ fields.map Field.name) :
    outcome = .error (.unknownField name (fields.map Field.name)) := by
  cases h with
  | unknown => rfl
  | unread hf hn | refused hf hn | clause hf hn =>
    exact absurd (List.mem_map.mpr ⟨_, hf, hn⟩) hname

/-- Compiling an expression makes of it what it becomes by itself. -/
lemma compiled_compile (hc : Catalog.ofList fields = .ok catalog) (name text : String) :
    Compiled fields name text (compile catalog name text) := by
  obtain rfl := Catalog.entries_of_ofList hc
  by_cases hname : ∀ f ∈ catalog.entries, f.name ≠ name
  · rw [compile, Catalog.require_of_unknown hname]
    exact .unknown hname
  · push Not at hname
    obtain ⟨f, hf, rfl⟩ := hname
    have hget : catalog.get? f.name = some f := Catalog.get?_of_mem hc hf
    cases hx : Expression.parse f.name text with
    | error e =>
      rw [compile_of_unread hget hx]
      exact .unread hf rfl hx
    | ok x =>
      rw [compile_of_parse hget hx]
      cases hp : f.predicate x.operator.comparison x.operand with
      | error e => exact .refused hf rfl hx hp
      | ok p => exact .clause hf rfl hx hp

/-- What an expression becomes by itself is what compiling makes of it. -/
lemma compile_of_compiled (hc : Catalog.ofList fields = .ok catalog) {outcome : Except FilterError Clause}
    (h : Compiled fields name text outcome) : compile catalog name text = outcome := by
  obtain rfl := Catalog.entries_of_ofList hc
  cases h with
  | unknown hname =>
    rw [compile, Catalog.require_of_unknown hname]
    rfl
  | unread hf hn hx =>
    subst hn
    exact compile_of_unread (Catalog.get?_of_mem hc hf) hx
  | refused hf hn hx hp | clause hf hn hx hp =>
    subst hn
    rw [compile_of_parse (Catalog.get?_of_mem hc hf) hx, hp]
    rfl

lemma compile_iff (hc : Catalog.ofList fields = .ok catalog) {outcome : Except FilterError Clause} :
    compile catalog name text = outcome ↔ Compiled fields name text outcome :=
  ⟨fun h => h ▸ compiled_compile hc name text, compile_of_compiled hc⟩

section Walk

variable (hc : Catalog.ofList fields = .ok catalog) {filters : List (String × String)}

include hc

lemma mapM_compile_ok_iff {clauses : List Clause} :
    filters.mapM (fun x => compile catalog x.1 x.2) = .ok clauses ↔
      List.Forall₂ (fun x c => Compiled fields x.1 x.2 (.ok c)) filters clauses := by
  simp only [mapM_ok_iff, compile_iff hc]

/-- Compiling one filter after the other fails with the error of the first that becomes no clause. Where
no field has its name, no filter before it has this name, for that one would have failed. -/
lemma mapM_compile_error_iff {e : FilterError} :
    filters.mapM (fun x => compile catalog x.1 x.2) = .error e ↔ ∃ before x after,
      filters = before ++ x :: after ∧ (∀ y ∈ before, ∃ c, Compiled fields y.1 y.2 (.ok c)) ∧
        Compiled fields x.1 x.2 (.error e) ∧ (x.1 ∉ fields.map Field.name →
          x.1 ∉ before.map Prod.fst ∧ e = .unknownField x.1 (fields.map Field.name)) := by
  simp only [mapM_error_iff, compile_iff hc]
  constructor
  · rintro ⟨before, x, after, hfilters, hbefore, hx⟩
    refine ⟨before, x, after, hfilters, hbefore, hx, fun hname => ⟨fun hmem => ?_, ?_⟩⟩
    · obtain ⟨y, hy, hyx⟩ := List.mem_map.mp hmem
      obtain ⟨c, hcompiled⟩ := hbefore y hy
      cases hcompiled.of_unknown (hyx ▸ hname)
    · cases hx.of_unknown hname
      rfl
  · rintro ⟨before, x, after, hfilters, hbefore, hx, -⟩
    exact ⟨before, x, after, hfilters, hbefore, hx⟩

end Walk

end Clause

/-- The filters of a request stand by name, without the ignored ones. -/
lemma Request.filters_withPairs (config : Config) (r : Request) (pairs : List (String × String)) :
    (r.withPairs pairs).filters config =
      (Params.grouped pairs).filter fun x => !r.isIgnored config x.1 := by
  rw [filters, ← Params.occurrences_ofPairs]
  rfl

namespace Filter

/-- Compiling the filters of a request succeeds with the clauses that they become one by one, in order,
and fails with the error of the catalog or else of the first filter that becomes none, which is the first
filter of its name where no field has this name; without a filter it succeeds whatever the catalog is. -/
theorem compile_all_or_nothing (config : Config) (r : Request) (pairs : List (String × String)) :
    let filters := (Params.grouped pairs).filter fun x => !r.isIgnored config x.1
    let request := r.withPairs pairs
    (∀ f, compile config request request.fieldCatalog = .ok f ↔ filters = [] ∧ f.clauses = [] ∨
      ∃ catalog, r.fieldCatalog = .ok catalog ∧
        List.Forall₂ (fun x c => Clause.Compiled catalog.entries x.1 x.2 (.ok c)) filters f.clauses) ∧
    (∀ e, compile config request request.fieldCatalog = .error e ↔ filters ≠ [] ∧
      (r.fieldCatalog = .error e ∨ ∃ catalog before x after, r.fieldCatalog = .ok catalog ∧
        filters = before ++ x :: after ∧
        (∀ y ∈ before, ∃ c, Clause.Compiled catalog.entries y.1 y.2 (.ok c)) ∧
        Clause.Compiled catalog.entries x.1 x.2 (.error e) ∧
        (x.1 ∉ catalog.names →
          x.1 ∉ before.map Prod.fst ∧ e = .unknownField x.1 catalog.names))) ∧
    (filters = [] → ∀ catalog, compile config request catalog = .ok ⟨[]⟩) := by
  intro filters request
  have hfilters : request.filters config = filters := r.filters_withPairs config pairs
  have hfields {catalog} (hcat : r.fieldCatalog = .ok catalog) :
      Catalog.ofList catalog.entries = .ok catalog := by
    obtain ⟨fields, hc⟩ := Request.exists_ofList hcat
    exact Catalog.ofList_entries hc
  refine ⟨fun f => ?_, fun e => ?_, fun h catalog => compile_of_nil (hfilters.trans h)⟩
  · rw [compile_ok_cases, hfilters]
    refine or_congr_right <| exists_congr fun catalog => and_congr_right fun hcat => ?_
    exact Clause.mapM_compile_ok_iff (hfields hcat)
  · rw [compile_error_iff, hfilters]
    refine and_congr_right fun _ => or_congr_right ⟨?_, ?_⟩
    · rintro ⟨catalog, hcat, herror⟩
      obtain ⟨before, x, after, hx⟩ := (Clause.mapM_compile_error_iff (hfields hcat)).mp herror
      exact ⟨catalog, before, x, after, hcat, hx⟩
    · rintro ⟨catalog, before, x, after, hcat, hx⟩
      exact ⟨catalog, hcat,
        (Clause.mapM_compile_error_iff (hfields hcat)).mpr ⟨before, x, after, hx⟩⟩

end Filter

end RowQuery
