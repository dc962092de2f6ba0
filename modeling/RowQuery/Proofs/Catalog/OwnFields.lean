import RowQuery.Filter
import RowQuery.Proofs.Schema.Columns
import RowQuery.Table.Dataset

/-!
The catalogs that a table gives by itself. Where the columns have different names, a table can be
filtered and sorted by each of its columns but the relations, under the name of the column; deriving
the catalogs never fails, and every clause compares a column of the table.
-/

namespace RowQuery

open Outcome

/-- Names stand in a list once each iff none is found a second time. -/
lemma firstRepeated?_eq_none {seen names : List String} :
    firstRepeated? seen names = none ↔ names.Nodup ∧ ∀ name ∈ names, name ∉ seen := by
  induction names generalizing seen with
  | nil => simp [firstRepeated?]
  | cons name names ih =>
    rw [firstRepeated?]
    split
    · rename_i hmem
      simp [hmem]
    · rename_i hmem
      rw [ih, List.nodup_cons]
      constructor
      · rintro ⟨hnd, hout⟩
        refine ⟨⟨fun h => (hout name h) (by simp), hnd⟩, ?_⟩
        intro n hn
        rcases List.mem_cons.mp hn with rfl | hn
        · exact hmem
        · exact fun h => hout n hn (by simp [h])
      · rintro ⟨⟨hnew, hnd⟩, hout⟩
        refine ⟨hnd, fun n hn h => ?_⟩
        rcases List.mem_cons.mp h with rfl | h
        · exact hnew hn
        · exact hout n (by simp [hn]) h

namespace Catalog

variable {α : Type} [Named α]

/-- Entries of different names make a catalog. -/
lemma ofList_ok {entries : List α} (h : (entries.map Named.name).Nodup) :
    ofList entries = .ok ⟨entries⟩ := by
  rw [ofList, firstRepeated?_eq_none.mpr ⟨h, by simp⟩]

/-- A catalog holds the entries that it is made of. -/
lemma entries_of_ofList {entries : List α} {c : Catalog α} (h : ofList entries = .ok c) :
    c.entries = entries := by
  rw [ofList] at h
  split at h <;> cases h
  rfl

/-- The entries of a catalog make it once more. -/
lemma ofList_entries {entries : List α} {c : Catalog α} (h : ofList entries = .ok c) :
    ofList c.entries = .ok c := by
  rwa [entries_of_ofList h]

/-- What a name leads to is an entry of that name. -/
lemma get?_some {c : Catalog α} {name : String} {e : α} (h : c.get? name = some e) :
    e ∈ c.entries ∧ Named.name e = name :=
  ⟨List.mem_of_find?_eq_some h, by simpa using List.find?_some h⟩

/-- A name that no entry has leads nowhere. -/
lemma get?_eq_none {c : Catalog α} {name : String} (h : ∀ e ∈ c.entries, Named.name e ≠ name) :
    c.get? name = none :=
  List.find?_eq_none.mpr fun e he heq => h e he (beq_iff_eq.mp heq)

/-- The name of an entry leads to it. -/
lemma get?_of_mem {entries : List α} {c : Catalog α} (h : ofList entries = .ok c) {e : α}
    (he : e ∈ entries) : c.get? (Named.name e) = some e := by
  rw [ofList] at h
  split at h
  · cases h
  · rename_i hnone
    cases h
    have hnd := (firstRepeated?_eq_none.mp hnone).1
    cases hf : get? ⟨entries⟩ (Named.name e) with
    | none => simpa using List.find?_eq_none.mp hf e he
    | some e' =>
      obtain ⟨hmem, hn⟩ := get?_some hf
      rw [List.inj_on_of_nodup_map hnd hmem he hn]

lemma require_ok_iff {c : Catalog Field} {name : String} {f : Field} :
    c.require name = .ok f ↔ c.get? name = some f := by
  rw [require]
  split <;> simp [*]

/-- A field that does not exist is blamed on the request. -/
lemma require_isValidation {c : Catalog Field} {name : String} {e : FilterError}
    (h : c.require name = .error e) : e.isValidation = true := by
  rw [require] at h
  split at h <;> cases h
  rfl

lemma requireKey_ok_iff {c : Catalog SortKey} {name : String} {k : SortKey} :
    c.requireKey name = .ok k ↔ c.get? name = some k := by
  rw [requireKey]
  split <;> simp [*]

/-- A sort key that does not exist is blamed on the request. -/
lemma requireKey_isValidation {c : Catalog SortKey} {name : String} {e : FilterError}
    (h : c.requireKey name = .error e) : e.isValidation = true := by
  rw [requireKey] at h
  split at h <;> cases h
  rfl

end Catalog

/-- The fields of a request have different names. -/
lemma Request.exists_ofList {r : Request} {catalog : Catalog Field}
    (h : r.fieldCatalog = .ok catalog) :
    ∃ fields, Catalog.ofList fields = .ok catalog := by
  rw [fieldCatalog] at h
  split at h
  · exact ⟨_, h⟩
  · exact ⟨_, h⟩

/-- Only a relation has no datatype. -/
lemma ColumnKind.exists_datatype? {kind : ColumnKind} (h : kind ≠ .relation) :
    ∃ t, kind.datatype? = some t := by
  cases kind with
  | relation => exact absurd rfl h
  | char | text | integer | autoId | float | decimal | boolean | nullBoolean | date | dateTime =>
    exact ⟨_, rfl⟩

/-- The fields of a schema are its columns but the relations. -/
lemma Field.mem_ofSchema {s : Schema} {f : Field} :
    f ∈ ofSchema s ↔ ∃ c ∈ s.columns, ∃ t, c.kind.datatype? = some t ∧ ofColumn c.name t = f := by
  simp only [ofSchema, List.mem_filterMap, Option.map_eq_some_iff]

/-- The sort keys of a schema are its columns but the relations. -/
lemma SortKey.mem_ofSchema {s : Schema} {k : SortKey} :
    k ∈ ofSchema s ↔ ∃ c ∈ s.columns, c.kind.datatype?.isSome ∧ ofName c.name = k := by
  simp only [ofSchema, List.mem_map, List.mem_filter, and_assoc]

namespace OutputSchema

variable {s : Schema}

/-- A table can be filtered by its own fields. -/
lemma fieldCatalog_ofSchema (hs : s.Distinct) :
    (ofSchema s).fieldCatalog = .ok ⟨Field.ofSchema s⟩ := by
  refine Catalog.ofList_ok (List.Nodup.sublist ?_ hs)
  show ((Field.ofSchema s).map Field.name).Sublist _
  rw [Field.ofSchema]
  induction s.columns with
  | nil => exact .slnil
  | cons c cs ih =>
    cases ht : c.kind.datatype? with
    | none => simpa [ht] using ih.cons c.name
    | some t => simpa [ht, Field.ofColumn] using ih

/-- A table can be sorted by its own columns. -/
lemma keyCatalog_ofSchema (hs : s.Distinct) :
    (ofSchema s).keyCatalog = .ok ⟨SortKey.ofSchema s⟩ := by
  refine Catalog.ofList_ok (List.Nodup.sublist ?_ hs)
  show ((SortKey.ofSchema s).map SortKey.name).Sublist _
  rw [SortKey.ofSchema, List.map_map]
  exact List.filter_sublist.map Column.name

end OutputSchema

/-- An expression is refused with an error that blames the request. -/
lemma Expression.parse_isValidation {field text : String} {e : FilterError}
    (h : parse field text = .error e) : e.isValidation = true := by
  have operand {op : Operator} {value : List Char} {e : FilterError}
      (h : operand? field op value = .error e) : e.isValidation = true := by
    rw [operand?] at h
    split at h
    · dsimp only at h
      split at h
      · cases h; rfl
      · cases h
    · split at h
      · split at h
        · cases h
        · cases h; rfl
      · cases h
  rw [parse, read] at h
  split at h
  · rcases bind_error_iff.mp h with h | ⟨_, _, h⟩
    · exact operand h
    · cases h
  · split at h
    · cases h; rfl
    · rcases bind_error_iff.mp h with h | ⟨_, _, h⟩
      · exact operand h
      · cases h

namespace Clause

variable {s : Schema}

/-- An expression for a field asks the field for its condition. -/
lemma compile_of_parse {catalog : Catalog Field} {f : Field} (hf : catalog.get? f.name = some f)
    {text : String} {op : Operator} {operand : Operand}
    (he : Expression.parse f.name text = .ok ⟨op, operand⟩) :
    compile catalog f.name text = (f.predicate op.comparison operand).map (mk f.name op) := by
  rw [compile, Catalog.require_ok_iff.mpr hf]
  show (Expression.parse f.name text >>= _) = _
  rw [he]
  show (f.predicate op.comparison operand >>= _) = _
  cases f.predicate op.comparison operand <;> rfl

/-- A clause that is compiled with the fields of a schema compares the column of the given name. -/
lemma compile_ofSchema {name text : String} {c : Clause}
    (h : compile ⟨Field.ofSchema s⟩ name text = .ok c) :
    ∃ column ∈ s.columns, ∃ e, column.name = name ∧ Expression.parse name text = .ok e ∧
      c = ⟨name, e.operator, .lookup ⟨name, e.operator.comparison, e.operand⟩⟩ := by
  obtain ⟨f, hf, h⟩ := bind_ok_iff.mp h
  obtain ⟨e, he, h⟩ := bind_ok_iff.mp h
  obtain ⟨p, hp, h⟩ := bind_ok_iff.mp h
  obtain ⟨hmem, hn⟩ := Catalog.get?_some (Catalog.require_ok_iff.mp hf)
  obtain ⟨column, hc, t, -, rfl⟩ := Field.mem_ofSchema.mp hmem
  cases hp
  cases h
  obtain rfl : column.name = name := hn
  exact ⟨column, hc, e, rfl, he, rfl⟩

/-- An expression for a field of a schema is refused with an error that blames the request. -/
lemma compile_isValidation {name text : String} {e : FilterError}
    (h : compile ⟨Field.ofSchema s⟩ name text = .error e) : e.isValidation = true := by
  obtain h | ⟨f, hf, h⟩ := bind_error_iff.mp h
  · exact Catalog.require_isValidation h
  · obtain h | ⟨e', -, h⟩ := bind_error_iff.mp h
    · exact Expression.parse_isValidation h
    · obtain ⟨hmem, -⟩ := Catalog.get?_some (Catalog.require_ok_iff.mp hf)
      obtain ⟨column, -, t, -, rfl⟩ := Field.mem_ofSchema.mp hmem
      obtain h | ⟨_, _, h⟩ := bind_error_iff.mp h
      · cases h
      · cases h

end Clause

namespace Dataset

/-- The request for a list of a dataset's rows that states nothing but the parameters. -/
def request (d : Dataset) (pairs : List (String × String)) : Request where
  params := .ofPairs pairs
  output := d.output

variable {d : Dataset} (pairs : List (String × String))

lemma fieldCatalog_request (hs : d.schema.Distinct) :
    (d.request pairs).fieldCatalog = .ok ⟨Field.ofSchema d.schema⟩ :=
  OutputSchema.fieldCatalog_ofSchema hs

lemma keyCatalog_request (hs : d.schema.Distinct) :
    (d.request pairs).keyCatalog none = .ok ⟨SortKey.ofSchema d.schema⟩ :=
  OutputSchema.keyCatalog_ofSchema hs

end Dataset

end RowQuery
