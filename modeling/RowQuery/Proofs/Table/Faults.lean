import RowQuery.Proofs.Table.Reloading
import RowQuery.Proofs.Text.Bytes

/-!
Datasets that are loaded, and those that are not. A row is `Sound` if its names are those of columns and what
it has for a column can be read as a value of the column. If all rows are sound and the primary key is a
column, the dataset is a table of the values that the rows hold. If not, it has a `Fault`: what is wrong with
the first row that is not sound, and with the declaration only if they all are. The two are all that can
happen, `loads_or_faults`.
-/

namespace RowQuery

open Outcome

namespace Dataset

/-- The value that a row has for a column: what is written under the name of the column, or null. -/
inductive Holds (members : List (String × Json)) (c : Column) : Value → Prop where
  | written {json : Json} {v : Value} : (c.name, json) ∈ members → Value.ofJson json c = .ok v →
    Holds members c v
  | missing : c.name ∉ members.map Prod.fst → Holds members c .null

/-- What is written for the column, if anything, can be read as a value of it. -/
def Readable (members : List (String × Json)) (c : Column) : Prop :=
  ∀ json, (c.name, json) ∈ members → ∃ v, Value.ofJson json c = .ok v

/-- A row that can be loaded: every name is that of a column, and every column can be read. -/
structure Sound (s : Schema) (members : List (String × Json)) : Prop where
  named : ∀ m ∈ members, m.1 ∈ s.columns.map Column.name
  readable : ∀ c ∈ s.columns, Readable members c

/-- A name in a row that no column has, and the smallest of these by its bytes. -/
structure FirstUnknown (s : Schema) (members : List (String × Json)) (name : String) : Prop where
  mem : name ∈ members.map Prod.fst
  unknown : name ∉ s.columns.map Column.name
  first : ∀ other ∈ members.map Prod.fst, other ∉ s.columns.map Column.name →
    name = other ∨ Text.bytes name < Text.bytes other

/-- What is wrong with the row at a place. A name that no column has comes before all values; without such a
name it is the value of the first column that cannot be read. -/
inductive RowFault (s : Schema) (place : Nat) (members : List (String × Json)) : DatasetError → Prop where
  | unknown {name : String} : FirstUnknown s members name →
    RowFault s place members (.unknownColumn place name)
  | unreadable {before after : List Column} {c : Column} {json : Json} {cause : StoreError} :
    (∀ m ∈ members, m.1 ∈ s.columns.map Column.name) → s.columns = before ++ c :: after →
    (∀ b ∈ before, Readable members b) → (c.name, json) ∈ members → Value.ofJson json c = .error cause →
    RowFault s place members (.cell place cause)

/-- What is wrong with a dataset: the fault of the first row that is not sound, or, if all rows are, a primary
key that is no column. -/
inductive Fault (d : Dataset) : DatasetError → Prop where
  | row {before after : List (List (String × Json))} {members : List (String × Json)} {e : DatasetError} :
    d.rows = before ++ members :: after → (∀ earlier ∈ before, Sound d.schema earlier) →
    RowFault d.schema before.length members e → Fault d e
  | schema : (∀ members ∈ d.rows, Sound d.schema members) →
    d.schema.primaryKey ∉ d.schema.columns.map Column.name →
    Fault d (.schema (.unknownColumn d.schema.primaryKey))

variable {s : Schema} {d : Dataset} {t : Table} {members : List (String × Json)} {c : Column} {v : Value}
  {place : Nat} {e : DatasetError}

lemma cell_of_mem (h : Json.Ascending members) {json : Json} (hm : (c.name, json) ∈ members) :
    cell members c = Value.ofJson json c := by
  rw [cell, Json.get?_of_mem h.nodup hm]

lemma cell_of_not_mem (h : c.name ∉ members.map Prod.fst) : cell members c = .ok .null := by
  rw [cell, Json.get?_eq_none_iff.mpr h]

/-- A cell is the value that the row has for its column. -/
lemma cell_ok_iff (h : Json.Ascending members) : cell members c = .ok v ↔ Holds members c v := by
  constructor
  · intro hv
    cases hget : Json.get? c.name members with
    | none =>
      have hnot := Json.get?_eq_none_iff.mp hget
      rw [cell_of_not_mem hnot] at hv
      cases hv
      exact .missing hnot
    | some json =>
      have hm := Json.mem_of_get? hget
      rw [cell_of_mem h hm] at hv
      exact .written hm hv
  · rintro (⟨hm, hv⟩ | hnot)
    · rw [cell_of_mem h hm, hv]
    · exact cell_of_not_mem hnot

/-- A cell fails only for what is written for its column. -/
lemma cell_error_iff (h : Json.Ascending members) {cause : StoreError} : cell members c = .error cause ↔
    ∃ json, (c.name, json) ∈ members ∧ Value.ofJson json c = .error cause := by
  constructor
  · intro he
    cases hget : Json.get? c.name members with
    | none =>
      rw [cell_of_not_mem (Json.get?_eq_none_iff.mp hget)] at he
      cases he
    | some json =>
      have hm := Json.mem_of_get? hget
      rw [cell_of_mem h hm] at he
      exact ⟨json, hm, he⟩
  · rintro ⟨json, hm, he⟩
    rw [cell_of_mem h hm, he]

lemma exists_cell_iff (h : Json.Ascending members) : (∃ v, cell members c = .ok v) ↔ Readable members c := by
  constructor
  · rintro ⟨v, hv⟩ json hm
    rw [cell_of_mem h hm] at hv
    exact ⟨v, hv⟩
  · intro hread
    by_cases hname : c.name ∈ members.map Prod.fst
    · obtain ⟨m, hm, hn⟩ := List.mem_map.mp hname
      have hm : (c.name, m.2) ∈ members := hn ▸ hm
      obtain ⟨v, hv⟩ := hread m.2 hm
      exact ⟨v, (cell_of_mem h hm).trans hv⟩
    · exact ⟨.null, cell_of_not_mem hname⟩

/-- A row is read iff it is sound. -/
lemma exists_row_iff (h : Json.Ascending members) :
    (∃ r, row s place members = .ok r) ↔ Sound s members := by
  have hnamed : (∀ m ∈ members, (s.column? m.1).isSome = true) ↔
      ∀ m ∈ members, m.1 ∈ s.columns.map Column.name := by
    refine forall₂_congr fun m _ => ?_
    rw [Option.isSome_iff_ne_none, Ne, Schema.column?_eq_none_iff, not_not]
  have hreadable : (∃ r, s.columns.mapM (cell members) = .ok r) ↔ ∀ c ∈ s.columns, Readable members c := by
    rw [exists_mapM_ok_iff]
    exact forall₂_congr fun c _ => exists_cell_iff h
  constructor
  · rintro ⟨r, hr⟩
    obtain ⟨hnames, hcells⟩ := row_ok_iff.mp hr
    exact ⟨hnamed.mp hnames, hreadable.mp ⟨r, hcells⟩⟩
  · rintro ⟨hnames, hcells⟩
    obtain ⟨r, hr⟩ := hreadable.mpr hcells
    exact ⟨r, row_ok_iff.mpr ⟨hnamed.mpr hnames, hr⟩⟩

lemma FirstUnknown.eq {name other : String} (h : FirstUnknown s members name)
    (h' : FirstUnknown s members other) : name = other := by
  rcases h.first other h'.mem h'.unknown with heq | hlt
  · exact heq
  · rcases h'.first name h.mem h.unknown with heq | hgt
    · exact heq.symm
    · exact absurd hgt (List.lt_asymm hlt)

lemma FirstUnknown.not_named {name : String} (h : FirstUnknown s members name) :
    ¬∀ m ∈ members, m.1 ∈ s.columns.map Column.name := by
  intro hnamed
  obtain ⟨m, hm, hn⟩ := List.mem_map.mp h.mem
  exact h.unknown (hn ▸ hnamed m hm)

/-- Since the names of a row ascend, the first one that no column has is the smallest. -/
lemma firstUnknown_of_find? (h : Json.Ascending members) {name : String} {json : Json}
    (hfind : members.find? (fun m => (s.column? m.1).isNone) = some (name, json)) :
    FirstUnknown s members name := by
  obtain ⟨hnone, before, after, hmembers, hbefore⟩ := List.find?_eq_some_iff_append.mp hfind
  have hunknown (name : String) : (s.column? name).isNone = true ↔ name ∉ s.columns.map Column.name := by
    rw [Option.isNone_iff_eq_none, Schema.column?_eq_none_iff]
  have hm : (name, json) ∈ members := List.mem_of_find?_eq_some hfind
  refine ⟨List.mem_map_of_mem hm, (hunknown name).mp hnone, fun other hother hnot => ?_⟩
  obtain ⟨m, hmem, rfl⟩ := List.mem_map.mp hother
  rw [hmembers, List.mem_append, List.mem_cons] at hmem
  rcases hmem with hmem | rfl | hmem
  · have hknown := hbefore m hmem
    rw [(hunknown m.1).mpr hnot] at hknown
    cases hknown
  · exact .inl rfl
  · rw [hmembers] at h
    obtain ⟨-, hpair, -⟩ := List.pairwise_append.mp h
    exact .inr (Text.lt_iff_bytes_lt.mp (List.rel_of_pairwise_cons hpair hmem))

/-- A row is refused for its fault. -/
lemma row_error_iff (h : Json.Ascending members) :
    row s place members = .error e ↔ RowFault s place members e := by
  cases hfind : members.find? fun m => (s.column? m.1).isNone with
  | some m =>
    have hfirst := firstUnknown_of_find? h hfind
    rw [row, hfind]
    constructor
    · rintro ⟨⟩
      exact .unknown hfirst
    · rintro (hname | ⟨hnamed, -⟩)
      · obtain rfl := hfirst.eq hname
        rfl
      · exact absurd hnamed hfirst.not_named
  | none =>
    have hnamed : ∀ m ∈ members, m.1 ∈ s.columns.map Column.name := by
      intro m hm
      have hsome := List.find?_eq_none.mp hfind m hm
      rwa [Option.isNone_iff_eq_none, Schema.column?_eq_none_iff, not_not] at hsome
    rw [row, hfind, mapError_error_iff]
    constructor
    · rintro ⟨cause, he, rfl⟩
      obtain ⟨before, c, after, hcolumns, hbefore, hc⟩ := mapM_error_iff.mp he
      obtain ⟨json, hm, hjson⟩ := (cell_error_iff h).mp hc
      exact .unreadable hnamed hcolumns (fun b hb => (exists_cell_iff h).mp (hbefore b hb)) hm hjson
    · rintro (hname | ⟨-, hcolumns, hbefore, hm, hjson⟩)
      · exact absurd hnamed hname.not_named
      · refine ⟨_, mapM_error_iff.mpr ⟨_, _, _, hcolumns, fun b hb => ?_, ?_⟩, rfl⟩
        · exact (exists_cell_iff h).mpr (hbefore b hb)
        · exact (cell_error_iff h).mpr ⟨_, hm, hjson⟩

/-- The rows that are read for columns make a table, unless the primary key is none of them. -/
lemma ofRows_error_iff {rows : List Row} (h : ∀ r ∈ rows, r.length = s.columns.length) {cause : StoreError} :
    Table.ofRows s rows = .error cause ↔
      s.primaryKey ∉ s.columns.map Column.name ∧ cause = .unknownColumn s.primaryKey := by
  rw [← Schema.columnIndex?_eq_none_iff]
  cases hkey : s.columnIndex? s.primaryKey with
  | none =>
    rw [Table.ofRows, hkey]
    simp [eq_comm]
  | some i =>
    rw [ofRows_ok_iff.mpr ⟨⟨i, hkey⟩, h, rfl⟩]
    simp

/-- All rows are read iff they are sound, whatever their places. -/
lemma rows_iff {rows : List (List (String × Json))} (h : ∀ members ∈ rows, Json.Ascending members) :
    (∀ x ∈ rows.zipIdx, ∃ r, row s x.2 x.1 = .ok r) ↔ ∀ members ∈ rows, Sound s members := by
  constructor
  · intro hread members hm
    obtain ⟨x, hx, rfl⟩ : ∃ x ∈ rows.zipIdx, x.1 = members := by
      rwa [← List.zipIdx_map_fst 0 rows, List.mem_map] at hm
    exact (exists_row_iff (h _ hm)).mp (hread x hx)
  · intro hsound x hx
    have hm : x.1 ∈ rows := List.fst_mem_of_mem_zipIdx hx
    exact (exists_row_iff (h _ hm)).mpr (hsound _ hm)

lemma length_eq_of_mapM_row {rows : List (List (String × Json))} {read : List Row}
    (h : (rows.zipIdx.mapM fun x => row s x.2 x.1) = .ok read) : ∀ r ∈ read, r.length = s.columns.length := by
  intro r hr
  obtain ⟨x, -, hx⟩ := exists_of_mem_right (mapM_ok_iff.mp h) r hr
  exact (row_ok_iff.mp hx).length_eq

/-- A dataset is refused for its fault. -/
lemma table_error_iff (h : ∀ members ∈ d.rows, Json.Ascending members) : d.table = .error e ↔ Fault d e := by
  rw [table, bind_error_iff]
  constructor
  · rintro (he | ⟨rows, hread, he⟩)
    · obtain ⟨before, members, after, hrows, hbefore, he⟩ := mapM_zipIdx_error_iff.mp he
      rw [hrows, List.forall_mem_append, List.forall_mem_cons] at h
      obtain ⟨hbefore', hmembers, -⟩ := h
      exact .row hrows ((rows_iff hbefore').mp hbefore) ((row_error_iff hmembers).mp he)
    · obtain ⟨cause, hcause, rfl⟩ := mapError_error_iff.mp he
      obtain ⟨hkey, rfl⟩ := (ofRows_error_iff (length_eq_of_mapM_row hread)).mp hcause
      exact .schema ((rows_iff h).mp (exists_mapM_ok_iff.mp ⟨rows, hread⟩)) hkey
  · rintro (⟨hrows, hbefore, he⟩ | ⟨hsound, hkey⟩)
    · rw [hrows, List.forall_mem_append, List.forall_mem_cons] at h
      obtain ⟨hbefore', hmembers, -⟩ := h
      refine .inl (mapM_zipIdx_error_iff.mpr ⟨_, _, _, hrows, (rows_iff hbefore').mpr hbefore, ?_⟩)
      exact (row_error_iff hmembers).mpr he
    · obtain ⟨rows, hread⟩ := exists_mapM_ok_iff.mpr ((rows_iff h).mpr hsound)
      have hcause := (ofRows_error_iff (length_eq_of_mapM_row hread)).mpr ⟨hkey, rfl⟩
      exact .inr ⟨rows, hread, mapError_error_iff.mpr ⟨_, hcause, rfl⟩⟩

/-- A dataset is loaded iff its primary key is a column and its rows are sound. -/
lemma exists_table_iff (h : ∀ members ∈ d.rows, Json.Ascending members) :
    (∃ t, d.table = .ok t) ↔
      d.schema.primaryKey ∈ d.schema.columns.map Column.name ∧ ∀ members ∈ d.rows, Sound d.schema members := by
  have hkey : (∃ i, d.schema.columnIndex? d.schema.primaryKey = some i) ↔
      d.schema.primaryKey ∈ d.schema.columns.map Column.name := by
    rw [← Option.ne_none_iff_exists', Ne, Schema.columnIndex?_eq_none_iff, not_not]
  have hrow (members : List (String × Json)) (hm : members ∈ d.rows) :
      (∃ r, row d.schema 0 members = .ok r) ↔ Sound d.schema members := exists_row_iff (h members hm)
  constructor
  · rintro ⟨t, ht⟩
    obtain ⟨-, hindex, hread⟩ := table_ok_iff.mp ht
    refine ⟨hkey.mp hindex, fun members hm => ?_⟩
    obtain ⟨r, -, hr⟩ := exists_of_mem_left hread members hm
    exact (hrow members hm).mp ⟨r, row_ok_iff.mpr hr⟩
  · rintro ⟨hmem, hsound⟩
    obtain ⟨rows, hrows⟩ := exists_mapM_ok_iff.mpr fun members hm => (hrow members hm).mpr (hsound members hm)
    have hread : List.Forall₂ (Reads d.schema) d.rows rows := (mapM_ok_iff.mp hrows).imp fun _ _ => row_ok_iff.mp
    exact ⟨⟨d.schema, rows⟩, table_ok_iff.mpr ⟨rfl, hkey.mpr hmem, hread⟩⟩

/-- Each cell of a loaded table is the value that its row holds for the column, and one that the column
stores. -/
lemma Reads.holds (h : Reads s members r) (ha : Json.Ascending members) (hb : ∀ m ∈ members, m.2.Bounded) :
    List.Forall₂ (fun c v => Holds members c v ∧ c.kind.Stores v) s.columns r :=
  (mapM_ok_iff.mp h.2).imp fun _ _ hv => ⟨(cell_ok_iff ha).mp hv, cell_stores hb hv⟩

/-- A dataset that is read from a text is loaded iff its primary key is a column and its rows are sound. The
table has a row for each row of the dataset, and in it the value for each column. If it is not loaded, the
error says what its fault is. -/
theorem loads_or_faults {text : String} (h : parse text = .ok d) :
    ((∃ t, d.table = .ok t) ↔ d.schema.primaryKey ∈ d.schema.columns.map Column.name ∧
      ∀ members ∈ d.rows, Sound d.schema members) ∧
    (∀ t, d.table = .ok t → t.schema = d.schema ∧
      List.Forall₂ (fun members row =>
        List.Forall₂ (fun c v => Holds members c v ∧ c.kind.Stores v) d.schema.columns row) d.rows t.rows) ∧
    ∀ e, d.table = .error e ↔ Fault d e := by
  have ha := parse_ascending h
  have hb := parse_bounded h
  refine ⟨exists_table_iff ha, fun t ht => ?_, fun e => table_error_iff ha⟩
  obtain ⟨hs, -, hread⟩ := table_ok_iff.mp ht
  -- Each row is read from one of the dataset, whose keys ascend and whose numbers are bounded.
  have hrows := (List.forall₂_and_left _ _).mpr ⟨fun _ hm => hm, hread⟩
  exact ⟨hs, hrows.imp fun members _ ⟨hm, hr⟩ => hr.holds (ha members hm) (hb members hm)⟩

/-- A dataset whose primary key is no column, and whose second row has two names that are none either and a
text for its number. -/
def misspelt : Dataset where
  schema := ⟨"towns", "key", [⟨"id", .autoId⟩]⟩
  rows := [[("id", .string "1")], [("area", .bool true), ("id", .string "two"), ("zone", .null)]]

/-- The text of the dataset, with the names of the second row in another order. -/
def misspeltText : String :=
  "\x7b\"schema\": \x7b\"name\": \"towns\", \"primary_key\": \"key\",
    \"columns\": [\x7b\"name\": \"id\", \"kind\": \"auto_id\"\x7d]\x7d,
    \"rows\": [\x7b\"id\": \"1\"\x7d, \x7b\"zone\": null, \"id\": \"two\", \"area\": true\x7d]\x7d"

/-- The first of the names is what is wrong with it. -/
theorem misspelt_faults :
    parse misspeltText = .ok misspelt ∧ misspelt.table = .error (.unknownColumn 1 "area") := by
  have hparse : parse misspeltText = .ok misspelt := by cbv
  have hrows : misspelt.rows =
      [[("id", .string "1")]] ++ [("area", .bool true), ("id", .string "two"), ("zone", .null)] :: [] := rfl
  have hsound : ∀ members ∈ [[("id", Json.string "1")]], Sound misspelt.schema members := by
    intro members hm
    obtain rfl := List.mem_singleton.mp hm
    have hrow : row misspelt.schema 0 [("id", .string "1")] = .ok [.int 1] := rfl
    exact (exists_row_iff (List.pairwise_singleton _ _)).mp ⟨_, hrow⟩
  have hfirst : FirstUnknown misspelt.schema
      [("area", .bool true), ("id", .string "two"), ("zone", .null)] "area" :=
    ⟨by decide, by decide, by decide⟩
  exact ⟨hparse, ((loads_or_faults hparse).2.2 _).mpr (.row hrows hsound (.unknown hfirst))⟩

end Dataset

end RowQuery
