import Mathlib.Data.Finset.Card
import Mathlib.Data.Finset.Option
import RowQuery.Catalog.Cache
import RowQuery.Proofs.Outcome

/-!
Catalogs in the store. Where functions of one identity are one function, the key of an output schema
tells everything that the schema consists of (`OutputSchema.eq_of_key`). A shelf that `Holds` what has
been derived for some keys therefore gives for each of them the catalog that a new derivation would
give, and looking up one more schema adds its key if the derivation succeeds (`Shelf.Holds.fetch`).
-/

namespace RowQuery

/-- Among the given fields, functions of one identity are one function. -/
structure Identified (fields : List Field) : Prop where
  converters : ∀ f ∈ fields, ∀ g ∈ fields, ∀ a b, f.converter = some a → g.converter = some b →
    a.identity = b.identity → a.convert = b.convert
  builders : ∀ f ∈ fields, ∀ g ∈ fields, ∀ a b, f.source = .custom a → g.source = .custom b →
    a.identity = b.identity → a.build = b.build

section Keys

variable {fields : List Field} {f g : Field}

lemma Identified.converter_eq (h : Identified fields) (hf : f ∈ fields) (hg : g ∈ fields)
    (hk : f.converter.map Converter.identity = g.converter.map Converter.identity) :
    f.converter = g.converter := by
  cases hfc : f.converter with
  | none =>
    rw [hfc] at hk
    exact (Option.map_eq_none_iff.mp hk.symm).symm
  | some a =>
    rw [hfc] at hk
    obtain ⟨b, hgc, hid⟩ := Option.map_eq_some_iff.mp hk.symm
    rw [hgc]
    have hconvert := h.converters f hf g hg a b hfc hgc hid.symm
    obtain ⟨i, convert⟩ := a
    obtain ⟨j, convert'⟩ := b
    obtain rfl : j = i := hid
    obtain rfl : convert = convert' := hconvert
    rfl

/-- The key of a field tells where its condition comes from. -/
lemma Identified.source_eq (h : Identified fields) (hf : f ∈ fields) (hg : g ∈ fields)
    (hk : f.key = g.key) : f.source = g.source := by
  have hpath : f.path? = g.path? := congrArg FieldKey.path hk
  have hbuilder : f.key.builder = g.key.builder := congrArg FieldKey.builder hk
  rw [Field.path?, Field.path?] at hpath
  rw [Field.key, Field.key] at hbuilder
  dsimp only at hbuilder
  cases hfs : f.source with
  | path path =>
    cases hgs : g.source with
    | path path' =>
      rw [hfs, hgs] at hpath
      rw [Option.some.inj hpath]
    | custom b =>
      rw [hfs, hgs] at hpath
      cases hpath
  | custom a =>
    cases hgs : g.source with
    | path path =>
      rw [hfs, hgs] at hpath
      cases hpath
    | custom b =>
      rw [hfs, hgs] at hbuilder
      have hid : a.identity = b.identity := Option.some.inj hbuilder
      have hbuild := h.builders f hf g hg a b hfs hgs hid
      obtain ⟨i, build⟩ := a
      obtain ⟨j, build'⟩ := b
      obtain rfl : i = j := hid
      obtain rfl : build = build' := hbuild
      rfl

lemma Identified.eq_of_key (h : Identified fields) (hf : f ∈ fields) (hg : g ∈ fields)
    (hk : f.key = g.key) : f = g := by
  have hsource := h.source_eq hf hg hk
  have hconverter := h.converter_eq hf hg (congrArg FieldKey.converter hk)
  have hname : f.name = g.name := congrArg FieldKey.name hk
  have hdatatype : f.datatype = g.datatype := congrArg FieldKey.datatype hk
  have hadvanced : f.advanced = g.advanced := congrArg FieldKey.advanced hk
  cases f
  cases g
  congr

lemma Identified.list_eq_of_keys (h : Identified fields) {xs ys : List Field} (hx : xs ⊆ fields)
    (hy : ys ⊆ fields) (hk : xs.map Field.key = ys.map Field.key) : xs = ys := by
  induction xs generalizing ys with
  | nil => exact (List.map_eq_nil_iff.mp hk.symm).symm
  | cons x xs ih =>
    cases ys with
    | nil => cases hk
    | cons y ys =>
      obtain ⟨hkey, hk⟩ := List.cons.inj hk
      obtain ⟨hxmem, hx⟩ := List.cons_subset.mp hx
      obtain ⟨hymem, hy⟩ := List.cons_subset.mp hy
      rw [h.eq_of_key hxmem hymem hkey, ih hx hy hk]

/-- The fields that an output schema states. -/
def OutputSchema.stated (o : OutputSchema) : List Field := o.filterable.getD []

/-- An output schema is told by its key. -/
lemma OutputSchema.eq_of_key {known : List OutputSchema}
    (h : Identified (known.flatMap OutputSchema.stated)) {o o' : OutputSchema} (ho : o ∈ known)
    (ho' : o' ∈ known) (hk : o.key = o'.key) : o = o' := by
  have hname : o.name = o'.name := congrArg OutputKey.name hk
  have hfields : o.fields = o'.fields := congrArg OutputKey.fields hk
  have hsortable : o.sortable = o'.sortable := congrArg OutputKey.sortable hk
  have hkeys : o.filterable.map (·.map Field.key) = o'.filterable.map (·.map Field.key) :=
    congrArg OutputKey.filterable hk
  have hfilterable : o.filterable = o'.filterable := by
    have hsub {o : OutputSchema} (ho : o ∈ known) {xs : List Field} (hxs : o.filterable = some xs) :
        xs ⊆ known.flatMap OutputSchema.stated := by
      intro f hf
      refine List.mem_flatMap.mpr ⟨o, ho, ?_⟩
      rwa [stated, hxs]
    cases hxs : o.filterable with
    | none =>
      rw [hxs] at hkeys
      exact (Option.map_eq_none_iff.mp hkeys.symm).symm
    | some xs =>
      rw [hxs] at hkeys
      obtain ⟨ys, hys, hmap⟩ := Option.map_eq_some_iff.mp hkeys.symm
      rw [hys, h.list_eq_of_keys (hsub ho hxs) (hsub ho' hys) hmap.symm]
  cases o
  cases o'
  congr

end Keys

namespace Shelf

variable {α : Type}

/-- What the shelf stands for: it has the given keys, each of them once, and a known output schema with
one of them would give the catalog that is stored. -/
structure Holds (derive : OutputSchema → Except FilterError (Catalog α)) (known : List OutputSchema)
    (s : Shelf α) (keys : Finset OutputKey) : Prop where
  nodup : (s.entries.map Prod.fst).Nodup
  keys_eq : (s.entries.map Prod.fst).toFinset = keys
  derived : ∀ x ∈ s.entries, ∀ o ∈ known, o.key = x.1 → derive o = .ok x.2.catalog

/-- The key of an output schema, if it gives a catalog. -/
def keyOf? (derive : OutputSchema → Except FilterError (Catalog α)) (o : OutputSchema) :
    Option OutputKey := if (derive o).isOk then some o.key else none

variable {derive : OutputSchema → Except FilterError (Catalog α)} {known : List OutputSchema}
  {s : Shelf α} {keys : Finset OutputKey} {o : OutputSchema}

lemma Holds.empty (derive : OutputSchema → Except FilterError (Catalog α))
    (known : List OutputSchema) : Holds derive known .empty ∅ :=
  ⟨List.nodup_nil, rfl, nofun⟩

lemma Holds.clear (s : Shelf α) : Holds derive known s.clear ∅ := ⟨List.nodup_nil, rfl, nofun⟩

lemma Holds.size_eq (h : Holds derive known s keys) : s.size = keys.card := by
  rw [size, ← h.keys_eq, List.toFinset_card_of_nodup h.nodup, List.length_map]

lemma get?_some {key : OutputKey} {stored : Stored α} (h : s.get? key = some stored) :
    (key, stored) ∈ s.entries := by
  obtain ⟨⟨k, _⟩, hfind, rfl⟩ := Option.map_eq_some_iff.mp h
  obtain rfl : k = key := by simpa using List.find?_some hfind
  exact List.mem_of_find?_eq_some hfind

lemma get?_none {key : OutputKey} (h : s.get? key = none) : key ∉ s.entries.map Prod.fst := by
  have hfind := List.find?_eq_none.mp (Option.map_eq_none_iff.mp h)
  rintro hmem
  obtain ⟨x, hx, rfl⟩ := List.mem_map.mp hmem
  exact absurd (beq_self_eq_true x.1) (hfind x hx)

/-- A derivation that fails leaves the shelf as it is. -/
lemma fetch_of_error {key : OutputKey} {derived : Except FilterError (Catalog α)} {e : FilterError}
    (h : derived = .error e) : (s.fetch key derived).2 = s := by
  unfold fetch
  rw [h]
  cases s.get? key <;> rfl

/-- The shelf gives what a derivation gives, and afterwards it holds the key if there is a catalog. -/
lemma Holds.fetch (h : Holds derive known s keys)
    (hi : Identified (known.flatMap OutputSchema.stated)) (ho : o ∈ known) :
    (s.fetch o.key (derive o)).1.map Stored.catalog = derive o ∧
      Holds derive known (s.fetch o.key (derive o)).2 (keys ∪ (keyOf? derive o).toFinset) := by
  unfold Shelf.fetch keyOf?
  cases hget : s.get? o.key with
  | some stored =>
    have hmem := get?_some hget
    have hder := h.derived _ hmem o ho rfl
    have hkey : o.key ∈ keys := by
      rw [← h.keys_eq, List.mem_toFinset]
      exact List.mem_map_of_mem hmem
    refine ⟨hder.symm, ?_⟩
    rw [hder]
    show Holds derive known s (keys ∪ {o.key})
    rwa [Finset.union_eq_left.mpr (by simpa using hkey)]
  | none =>
    cases hder : derive o with
    | error e =>
      refine ⟨rfl, ?_⟩
      show Holds derive known s (keys ∪ ∅)
      rwa [Finset.union_empty]
    | ok catalog =>
      refine ⟨rfl, ?_, ?_, ?_⟩
      · rw [List.map_append]
        refine List.nodup_append.mpr ⟨h.nodup, List.nodup_singleton _, fun k hk k' hk' heq => ?_⟩
        obtain rfl := List.mem_singleton.mp hk'
        subst heq
        exact get?_none hget hk
      · rw [List.map_append, List.toFinset_append, h.keys_eq]
        rfl
      · intro x hx o' ho' hk
        obtain hx | hx := List.mem_append.mp hx
        · exact h.derived x hx o' ho' hk
        · obtain rfl := List.mem_singleton.mp hx
          rw [OutputSchema.eq_of_key hi ho' ho hk, hder]

end Shelf

namespace Request

/-- The key under which the store has the fields of a request, if it has them at all. -/
def fieldsAt? (r : Request) : Option OutputKey :=
  if r.filterable.isSome then none else Shelf.keyOf? OutputSchema.fieldCatalog r.output

/-- The key under which the store has the sort keys of a request, if it has them at all. -/
def keysAt? (r : Request) (configured : Option (List String)) : Option OutputKey :=
  if (r.statedKeys configured).isSome then none else Shelf.keyOf? OutputSchema.keyCatalog r.output

end Request

namespace CatalogCache

/-- What the store stands for: the keys of its fields and those of its sort keys, where the keys of the
known output schemas tell them apart. -/
structure Holds (known : List OutputSchema) (c : CatalogCache) (F K : Finset OutputKey) : Prop where
  identified : Identified (known.flatMap OutputSchema.stated)
  fields : c.fields.Holds OutputSchema.fieldCatalog known F
  keys : c.keys.Holds OutputSchema.keyCatalog known K

variable {known : List OutputSchema} {c : CatalogCache} {r : Request} {F K : Finset OutputKey}

/-- Fields that cannot be derived leave no trace in the store. -/
lemma fieldCatalog_of_error {e : FilterError} (h : r.output.fieldCatalog = .error e)
    (c : CatalogCache) : (c.fieldCatalog r).2 = c := by
  unfold fieldCatalog
  cases r.filterable with
  | some fields => rfl
  | none =>
    show { c with fields := (c.fields.fetch r.output.key r.output.fieldCatalog).2 } = c
    rw [Shelf.fetch_of_error h]

lemma keyCatalog_of_error {e : FilterError} (h : r.output.keyCatalog = .error e)
    (c : CatalogCache) (configured : Option (List String)) :
    (c.keyCatalog r configured).2 = c := by
  unfold keyCatalog
  cases r.statedKeys configured with
  | some names => rfl
  | none =>
    show { c with keys := (c.keys.fetch r.output.key r.output.keyCatalog).2 } = c
    rw [Shelf.fetch_of_error h]

lemma fieldCatalog_keys (c : CatalogCache) (r : Request) : (c.fieldCatalog r).2.keys = c.keys := by
  unfold fieldCatalog
  cases r.filterable <;> rfl

lemma keyCatalog_fields (c : CatalogCache) (r : Request) (configured : Option (List String)) :
    (c.keyCatalog r configured).2.fields = c.fields := by
  unfold keyCatalog
  cases r.statedKeys configured <;> rfl

/-- The store gives the fields of a request as they follow from the request. -/
lemma Holds.fieldCatalog (h : c.Holds known F K) (hr : r.output ∈ known) :
    (c.fieldCatalog r).1.map Shared.catalog = r.fieldCatalog ∧
      (c.fieldCatalog r).2.Holds known (F ∪ r.fieldsAt?.toFinset) K := by
  unfold CatalogCache.fieldCatalog Request.fieldsAt?
  cases hs : r.filterable with
  | some fields =>
    constructor
    · show (r.fieldCatalog.map unshared).map Shared.catalog = r.fieldCatalog
      cases r.fieldCatalog <;> rfl
    · show c.Holds known (F ∪ ∅) K
      rwa [Finset.union_empty]
  | none =>
    obtain ⟨hfound, hshelf⟩ := h.fields.fetch h.identified hr
    refine ⟨?_, h.identified, hshelf, h.keys⟩
    have hplain : r.fieldCatalog = r.output.fieldCatalog := by rw [Request.fieldCatalog, hs]
    refine Eq.trans ?_ (hfound.trans hplain.symm)
    show ((c.fields.fetch r.output.key r.output.fieldCatalog).1.map shared).map _ = _
    cases (c.fields.fetch r.output.key r.output.fieldCatalog).1 <;> rfl

lemma Holds.keyCatalog (h : c.Holds known F K) (hr : r.output ∈ known)
    (configured : Option (List String)) :
    (c.keyCatalog r configured).1.map Shared.catalog = r.keyCatalog configured ∧
      (c.keyCatalog r configured).2.Holds known F (K ∪ (r.keysAt? configured).toFinset) := by
  unfold CatalogCache.keyCatalog Request.keysAt?
  cases hs : r.statedKeys configured with
  | some names =>
    constructor
    · show ((r.keyCatalog configured).map unshared).map Shared.catalog = r.keyCatalog configured
      cases r.keyCatalog configured <;> rfl
    · show c.Holds known F (K ∪ ∅)
      rwa [Finset.union_empty]
  | none =>
    obtain ⟨hfound, hshelf⟩ := h.keys.fetch h.identified hr
    refine ⟨?_, h.identified, h.fields, hshelf⟩
    have hplain : r.keyCatalog configured = r.output.keyCatalog := by rw [Request.keyCatalog, hs]
    refine Eq.trans ?_ (hfound.trans hplain.symm)
    show ((c.keys.fetch r.output.key r.output.keyCatalog).1.map shared).map _ = _
    cases (c.keys.fetch r.output.key r.output.keyCatalog).1 <;> rfl

end CatalogCache

end RowQuery
