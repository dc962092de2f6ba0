import RowQuery.CommandLine.Run
import RowQuery.Proofs.Pipeline.Sieves

/-!
An explained query prints what the query alone prints, behind its explanation (`run_explained`). To explain
a query is to compile its three parts without a view of the table, and a query that is answered has compiled
them too, each of them for the same columns and primary key (`exists_explains`).
-/

namespace RowQuery

open Outcome

/-- The condition that a free-text query asks for, as text. -/
def SearchOutcome.text : SearchOutcome → String
  | everything => "TRUE"
  | nothing => "FALSE"
  | rows condition => condition.text

namespace CommandLine

variable {args : Arguments} {p : Pipeline} {r : Request} {key query : String} {e : Explanation}
  {content : Except PathFault String} {table : Table} {output : OutputSchema} {text : String}

/-- The arguments with a query for their command. -/
def Arguments.asking (args : Arguments) (query : String) (explained : Bool) : Arguments :=
  { args with command := .query query explained }

/-- Whether an explanation tells what the three parts of a request are compiled to. -/
structure Explanation.Explains (e : Explanation) (p : Pipeline) (r : Request) (key : String) :
    Prop where
  filter : ∃ f, Filter.compile p.config r r.fieldCatalog = .ok f ∧ e.filter = f.predicate.text
  search : ∃ outcome, Search.compile p.config r r.fieldCatalog = .ok outcome ∧
    e.search = outcome.text
  ordering : ∃ ts, Sorting.effective p.config r (r.keyCatalog p.sortable) key = .ok ts ∧
    e.ordering = ts.map OrderTerm.text

lemma explain_ok_iff : explain p r key = .ok e ↔ e.Explains p r key := by
  constructor
  · intro h
    obtain ⟨f, hf, h⟩ := bind_ok_iff.mp h
    obtain ⟨outcome, houtcome, h⟩ := bind_ok_iff.mp h
    obtain ⟨ts, hts, h⟩ := bind_ok_iff.mp h
    cases h
    exact ⟨⟨f, hf, rfl⟩, ⟨outcome, houtcome, by cases outcome <;> rfl⟩, ⟨ts, hts, rfl⟩⟩
  · rintro ⟨⟨f, hf, hfilter⟩, ⟨outcome, houtcome, hsearch⟩, ⟨ts, hts, hordering⟩⟩
    refine bind_ok_iff.mpr ⟨f, hf, bind_ok_iff.mpr ⟨outcome, houtcome,
      bind_ok_iff.mpr ⟨ts, hts, ?_⟩⟩⟩
    obtain ⟨filter, search, ordering⟩ := e
    cases hfilter
    cases hsearch
    cases hordering
    cases outcome <;> rfl

/-- A request that is answered can be explained. -/
lemma exists_explains {v w : View} (h : p.apply r v = .ok w) :
    ∃ e, Explanation.Explains e p r (DataSource.primaryKey v) := by
  obtain ⟨a, b, cs, ha, hb, hcs, -⟩ := Pipeline.apply_ok_iff.mp h
  obtain ⟨f, hf, -⟩ := bind_ok_iff.mp ha
  obtain ⟨outcome, houtcome, -⟩ := bind_ok_iff.mp hb
  obtain ⟨ts, hts, -⟩ := bind_ok_iff.mp hcs
  exact ⟨⟨f.predicate.text, outcome.text, ts.map OrderTerm.text⟩,
    ⟨f, hf, rfl⟩, ⟨outcome, houtcome, rfl⟩, ⟨ts, hts, rfl⟩⟩

/-- What is printed of a view. -/
def printed (args : Arguments) (r : Request) (v : View) : String :=
  Report.rows args.format (shown args.config r v).1 (shown args.config r v).2

lemma runOn_plain_ok_iff : runOn (args.asking query false) output table = .ok text ↔
    ∃ v, (pipeline args).apply (request args output query) (View.ofTable table) = .ok v ∧
      text = printed args (request args output query) v := by
  constructor
  · intro h
    obtain ⟨heading, hheading, h⟩ := bind_ok_iff.mp h
    obtain ⟨v, hv, h⟩ := bind_ok_iff.mp h
    cases hheading
    cases h
    exact ⟨v, hv, String.empty_append⟩
  · rintro ⟨v, hv, rfl⟩
    refine bind_ok_iff.mpr ⟨"", rfl, bind_ok_iff.mpr ⟨v, hv, ?_⟩⟩
    exact congrArg Except.ok String.empty_append

lemma runOn_explained_ok_iff : runOn (args.asking query true) output table = .ok text ↔
    ∃ e v, Explanation.Explains e (pipeline args) (request args output query)
        table.schema.primaryKey ∧
      (pipeline args).apply (request args output query) (View.ofTable table) = .ok v ∧
      text = Report.explanation args.format e ++ "\n\n" ++
        printed args (request args output query) v := by
  constructor
  · intro h
    obtain ⟨e, he, h⟩ := bind_ok_iff.mp h
    obtain ⟨heading, hheading, h⟩ := bind_ok_iff.mp h
    obtain ⟨v, hv, h⟩ := bind_ok_iff.mp h
    cases hheading
    cases h
    exact ⟨e, v, explain_ok_iff.mp he, hv, rfl⟩
  · rintro ⟨e, v, he, hv, rfl⟩
    exact bind_ok_iff.mpr ⟨e, explain_ok_iff.mpr he,
      bind_ok_iff.mpr ⟨_, rfl, bind_ok_iff.mpr ⟨v, hv, rfl⟩⟩⟩

/-- A command succeeds iff it does on the table that the content of the file makes. -/
lemma run_ok_iff : run args content = .ok text ↔
    ∃ file dataset table, content = .ok file ∧ Dataset.parse file = .ok dataset ∧
      dataset.table = .ok table ∧ runOn args dataset.output table = .ok text := by
  constructor
  · intro h
    obtain ⟨file, hfile, h⟩ := bind_ok_iff.mp h
    obtain ⟨dataset, hdataset, h⟩ := bind_ok_iff.mp h
    obtain ⟨table, htable, h⟩ := bind_ok_iff.mp h
    exact ⟨file, dataset, table, mapError_ok_iff.mp hfile, mapError_ok_iff.mp hdataset,
      mapError_ok_iff.mp htable, mapError_ok_iff.mp h⟩
  · rintro ⟨file, dataset, table, hfile, hdataset, htable, h⟩
    exact bind_ok_iff.mpr ⟨file, mapError_ok_iff.mpr hfile,
      bind_ok_iff.mpr ⟨dataset, mapError_ok_iff.mpr hdataset,
        bind_ok_iff.mpr ⟨table, mapError_ok_iff.mpr htable, mapError_ok_iff.mpr h⟩⟩⟩

/-- Whether an explanation is that of a query on the table which the content of a file makes. -/
def Explanation.IsOf (e : Explanation) (args : Arguments) (content : Except PathFault String)
    (query : String) : Prop :=
  ∃ file dataset table, content = .ok file ∧ Dataset.parse file = .ok dataset ∧
    dataset.table = .ok table ∧
    e.Explains (pipeline args) (request args dataset.output query) table.schema.primaryKey

/-- To explain a query only adds to what it prints. With an explanation a query is answered iff it is
without one, and then the explanation of its filters, its free-text query and its order stands before the
same answer, with an empty line between them. -/
theorem run_explained (args : Arguments) (content : Except PathFault String) (query : String) :
    let answer (explained : Bool) := run (args.asking query explained) content
    ((∃ text, answer true = .ok text) ↔ ∃ text, answer false = .ok text) ∧
    ∀ text, answer true = .ok text ↔ ∃ e plain, e.IsOf args content query ∧
      answer false = .ok plain ∧ text = Report.explanation args.format e ++ "\n\n" ++ plain := by
  intro answer
  have explained (text : String) : answer true = .ok text ↔ ∃ e plain, e.IsOf args content query ∧
      answer false = .ok plain ∧ text = Report.explanation args.format e ++ "\n\n" ++ plain := by
    constructor
    · intro h
      obtain ⟨file, dataset, table, hfile, hdataset, htable, h⟩ := run_ok_iff.mp h
      obtain ⟨e, v, he, hv, rfl⟩ := runOn_explained_ok_iff.mp h
      refine ⟨e, _, ⟨file, dataset, table, hfile, hdataset, htable, he⟩, ?_, rfl⟩
      exact run_ok_iff.mpr ⟨file, dataset, table, hfile, hdataset, htable,
        runOn_plain_ok_iff.mpr ⟨v, hv, rfl⟩⟩
    · rintro ⟨e, plain, ⟨file, dataset, table, hfile, hdataset, htable, he⟩, h, rfl⟩
      obtain ⟨file', dataset', table', hfile', hdataset', htable', h⟩ := run_ok_iff.mp h
      -- Both come from one content, so the file, the dataset and the table are the same.
      obtain rfl : file' = file := Except.ok.inj (hfile'.symm.trans hfile)
      obtain rfl : dataset' = dataset := Except.ok.inj (hdataset'.symm.trans hdataset)
      obtain rfl : table' = table := Except.ok.inj (htable'.symm.trans htable)
      obtain ⟨v, hv, rfl⟩ := runOn_plain_ok_iff.mp h
      exact run_ok_iff.mpr ⟨file', dataset', table', hfile, hdataset, htable,
        runOn_explained_ok_iff.mpr ⟨e, v, he, hv, rfl⟩⟩
  refine ⟨?_, explained⟩
  constructor
  · rintro ⟨text, h⟩
    obtain ⟨e, plain, -, hplain, -⟩ := (explained text).mp h
    exact ⟨plain, hplain⟩
  · rintro ⟨plain, h⟩
    obtain ⟨file, dataset, table, hfile, hdataset, htable, hrun⟩ := run_ok_iff.mp h
    obtain ⟨v, hv, -⟩ := runOn_plain_ok_iff.mp hrun
    obtain ⟨e, he⟩ := exists_explains hv
    exact ⟨_, (explained _).mpr ⟨e, plain, ⟨file, dataset, table, hfile, hdataset, htable, he⟩, h,
      rfl⟩⟩

/-- A file with one city. -/
def cityFile : String :=
  "\x7b\"schema\": \x7b\"name\": \"city\", \"primary_key\": \"id\",
    \"columns\": [\x7b\"name\": \"id\", \"kind\": \"auto_id\"\x7d]\x7d,
    \"rows\": [\x7b\"id\": 1\x7d]\x7d"

/-- A query for the city prints its row, and behind an explanation if it is asked for one. -/
theorem city_run_explained :
    let args : Arguments := ⟨"city.json", .usual, [], [], .table, .query "" false⟩
    ∃ e text plain, e.IsOf args (.ok cityFile) "id=ge:1" ∧
      run (args.asking "id=ge:1" true) (.ok cityFile) = .ok text ∧
      run (args.asking "id=ge:1" false) (.ok cityFile) = .ok plain ∧
      text = Report.explanation .table e ++ "\n\n" ++ plain := by
  intro args
  have hplain : (run (args.asking "id=ge:1" false) (.ok cityFile)).toOption.isSome = true := by
    decide +kernel
  obtain ⟨plain, hplain⟩ := Option.isSome_iff_exists.mp hplain
  obtain ⟨hiff, hexplained⟩ := run_explained args (.ok cityFile) "id=ge:1"
  obtain ⟨text, htext⟩ := hiff.mpr ⟨plain, mem_toOption_iff.mp hplain⟩
  obtain ⟨e, plain', he, hplain', heq⟩ := (hexplained text).mp htext
  exact ⟨e, text, plain', he, htext, hplain', heq⟩

end CommandLine

end RowQuery
