import Mathlib.Data.List.DropRight
import RowQuery.Pipeline.Cached
import RowQuery.Proofs.Catalog.Stored
import RowQuery.Proofs.Table.Loading

/-!
Any number of uses of one store of catalogs. After each use the store stands for the keys of the catalogs
that were derived since it was last cleared (`Use.perform_holds`), so that in a whole run every use gives
what it would give without the store: `Use.run_transparent`. A use looks at the store only where it looks
up catalogs, so what the lookups keep is kept by the use (`Use.perform_alike`): a request that states its
catalogs passes by those in the store, and a failed derivation leaves no trace.
-/

namespace RowQuery

/-- What is asked for where a store of catalogs is at hand. -/
inductive Use (σ : Type) where
  | fields (r : Request)
  | keys (r : Request) (configured : Option (List String))
  | answer (p : Pipeline) (r : Request) (source : σ)
  | describe (p : Pipeline) (r : Request)
  | clear

/-- What a use gives; of a catalog this is what it contains. -/
inductive Reply (σ : Type) where
  | fields (found : Except FilterError (Catalog Field))
  | keys (found : Except FilterError (Catalog SortKey))
  | answer (found : Except FilterError σ)
  | describe (found : Except FilterError (List Description))
  | cleared

/-- The view that a request asks for, before it is ordered. -/
def Pipeline.narrow {σ : Type} [DataSource σ] (p : Pipeline) (r : Request) (source : σ) :
    Except FilterError σ := do
  let source ← p.applyFilter r r.fieldCatalog source
  p.applySearch r r.fieldCatalog source

namespace Use

variable {σ : Type}

/-- The request of a use. -/
def request? : Use σ → Option Request
  | fields r | keys r _ | answer _ r _ | describe _ r => some r
  | clear => none

/-- The output schema of a use. -/
def output? (u : Use σ) : Option OutputSchema := u.request?.map Request.output

/-- The names to sort by that a use has for requests that state none. -/
def configured : Use σ → Option (List String)
  | keys _ configured => configured
  | answer p _ _ | describe p _ => p.sortable
  | fields _ | clear => none

/-- Whether the use drops every catalog. -/
def isClear : Use σ → Bool
  | clear => true
  | _ => false

/-- The uses of a list that nothing was cleared after. -/
def sinceClear (uses : List (Use σ)) : List (Use σ) := uses.rtakeWhile fun u => !u.isClear

lemma sinceClear_concat (uses : List (Use σ)) (u : Use σ) :
    sinceClear (uses ++ [u]) = if u.isClear then [] else sinceClear uses ++ [u] := by
  rw [sinceClear, List.rtakeWhile_concat]
  cases u.isClear <;> rfl

variable [DataSource σ]

/-- What a use gives without the store. -/
def reply : Use σ → Reply σ
  | fields r => .fields r.fieldCatalog
  | keys r configured => .keys (r.keyCatalog configured)
  | answer p r source => .answer (p.apply r source)
  | describe p r => .describe (p.describe r)
  | clear => .cleared

/-- What a use gives with the store, and the store afterwards. -/
def perform (u : Use σ) (c : CatalogCache) : Reply σ × CatalogCache :=
  match u with
  | fields r =>
    let (found, c) := c.fieldCatalog r
    (.fields (found.map Shared.catalog), c)
  | keys r configured =>
    let (found, c) := c.keyCatalog r configured
    (.keys (found.map Shared.catalog), c)
  | answer p r source =>
    let (found, c) := p.applyCached r source c
    (.answer found, c)
  | describe p r =>
    let (found, c) := p.describeCached r c
    (.describe found, c)
  | clear => (.cleared, c.clear)

/-- What the uses of a list give one after the other, and the store afterwards. -/
def run (uses : List (Use σ)) (c : CatalogCache) : List (Reply σ) × CatalogCache :=
  uses.foldl (fun (replies, c) u => (replies ++ [(u.perform c).1], (u.perform c).2)) ([], c)

/-- The key of the fields that a use derives or finds in the store. -/
def fieldsAt? : Use σ → Option OutputKey
  | fields r | describe _ r => r.fieldsAt?
  | answer p r _ =>
    if Filter.needsCatalog p.config r || Search.needsCatalog p.config r then r.fieldsAt? else none
  | keys .. | clear => none

/-- The key of the sort keys that a use derives or finds in the store. -/
def keysAt? : Use σ → Option OutputKey
  | keys r configured => r.keysAt? configured
  | answer p r source =>
    if (p.narrow r source).isOk && Sorting.needsCatalog p.config r then r.keysAt? p.sortable
    else none
  | describe p r => if r.fieldCatalog.isOk then r.keysAt? p.sortable else none
  | fields _ | clear => none

/-- The use neither looks at the fields in the store nor changes them. -/
def PassesFields (u : Use σ) : Prop := ∀ c shelf, u.perform { c with fields := shelf } =
  ((u.perform c).1, { (u.perform c).2 with fields := shelf })

/-- The use neither looks at the sort keys in the store nor changes them. -/
def PassesKeys (u : Use σ) : Prop := ∀ c shelf, u.perform { c with keys := shelf } =
  ((u.perform c).1, { (u.perform c).2 with keys := shelf })

end Use

namespace CatalogCache

variable {known : List OutputSchema} {c : CatalogCache} {r : Request} {F K : Finset OutputKey}

/-- The store gives the fields of a request whether they are needed or not. -/
lemma Holds.fieldsIf (h : c.Holds known F K) (hr : r.output ∈ known) (needed : Bool) :
    ∃ c', c.fieldsIf needed r = (r.fieldCatalog, c') ∧
      c'.Holds known (F ∪ (if needed then r.fieldsAt? else none).toFinset) K := by
  cases needed with
  | true =>
    obtain ⟨hfound, hold⟩ := h.fieldCatalog hr
    exact ⟨_, congrArg (·, (c.fieldCatalog r).2) hfound, hold⟩
  | false =>
    refine ⟨c, rfl, ?_⟩
    show c.Holds known (F ∪ ∅) K
    rwa [Finset.union_empty]

lemma Holds.keysIf (h : c.Holds known F K) (hr : r.output ∈ known) (needed : Bool)
    (configured : Option (List String)) :
    ∃ c', c.keysIf needed r configured = (r.keyCatalog configured, c') ∧
      c'.Holds known F (K ∪ (if needed then r.keysAt? configured else none).toFinset) := by
  cases needed with
  | true =>
    obtain ⟨hfound, hold⟩ := h.keyCatalog hr configured
    exact ⟨_, congrArg (·, (c.keyCatalog r configured).2) hfound, hold⟩
  | false =>
    refine ⟨c, rfl, ?_⟩
    show c.Holds known F (K ∪ ∅)
    rwa [Finset.union_empty]

end CatalogCache

namespace Pipeline

variable {σ : Type} [DataSource σ] {p : Pipeline} {r : Request}

/-- A request without filters is not narrowed by filters. -/
lemma applyFilter_of_not_needsCatalog (h : Filter.needsCatalog p.config r = false)
    (catalog : Except FilterError (Catalog Field)) (source : σ) :
    p.applyFilter r catalog source = .ok source := by
  rw [applyFilter, Filter.compile, h, if_neg Bool.false_ne_true]
  rfl

variable {known : List OutputSchema} {c : CatalogCache} {F K : Finset OutputKey}

/-- A request is answered as without the store. -/
lemma applyCached_holds (p : Pipeline) (source : σ) (h : c.Holds known F K)
    (hr : r.output ∈ known) :
    ∃ c', p.applyCached r source c = (p.apply r source, c') ∧
      c'.Holds known (F ∪ (Use.answer p r source).fieldsAt?.toFinset)
        (K ∪ (Use.answer p r source).keysAt?.toFinset) := by
  obtain ⟨c₁, h₁, hold₁⟩ := h.fieldsIf hr (Filter.needsCatalog p.config r)
  rw [applyCached, h₁]
  dsimp only
  cases hf : p.applyFilter r r.fieldCatalog source with
  | error e =>
    -- Without the need of a catalog the filters could not have failed.
    have hneeds : Filter.needsCatalog p.config r = true := by
      by_contra hnot
      rw [applyFilter_of_not_needsCatalog (Bool.eq_false_iff.mpr hnot)] at hf
      cases hf
    have hnarrow : (p.narrow r source).isOk = false := by
      rw [narrow, hf]
      rfl
    refine ⟨c₁, by rw [apply, hf]; rfl, ?_⟩
    simpa [Use.fieldsAt?, Use.keysAt?, hneeds, hnarrow] using hold₁
  | ok filtered =>
    obtain ⟨c₂, h₂, hold₂⟩ := hold₁.fieldsIf hr (Search.needsCatalog p.config r)
    dsimp only
    rw [h₂]
    dsimp only
    have hfields : F ∪ (if Filter.needsCatalog p.config r then r.fieldsAt? else none).toFinset ∪
        (if Search.needsCatalog p.config r then r.fieldsAt? else none).toFinset =
          F ∪ (Use.answer p r source).fieldsAt?.toFinset := by
      rw [Use.fieldsAt?]
      cases Filter.needsCatalog p.config r <;> cases Search.needsCatalog p.config r <;>
        simp [Finset.union_assoc]
    rw [hfields] at hold₂
    have happly : p.apply r source = (p.applySearch r r.fieldCatalog filtered >>=
        p.applySort r (r.keyCatalog p.sortable)) := by
      rw [apply, hf]
      rfl
    have hnarrow : p.narrow r source = p.applySearch r r.fieldCatalog filtered := by
      rw [narrow, hf]
      rfl
    cases hs : p.applySearch r r.fieldCatalog filtered with
    | error e =>
      refine ⟨c₂, by rw [happly, hs]; rfl, ?_⟩
      simpa [Use.keysAt?, hnarrow, hs, Except.isOk, Except.toBool] using hold₂
    | ok narrowed =>
      obtain ⟨c₃, h₃, hold₃⟩ := hold₂.keysIf hr (Sorting.needsCatalog p.config r) p.sortable
      dsimp only
      rw [h₃]
      refine ⟨c₃, by rw [happly, hs]; rfl, ?_⟩
      simpa [Use.keysAt?, hnarrow, hs, Except.isOk, Except.toBool] using hold₃

lemma describeCached_holds (p : Pipeline) (h : c.Holds known F K) (hr : r.output ∈ known) :
    ∃ c', p.describeCached r c = (p.describe r, c') ∧
      c'.Holds known (F ∪ r.fieldsAt?.toFinset)
        (K ∪ (if r.fieldCatalog.isOk then r.keysAt? p.sortable else none).toFinset) := by
  obtain ⟨c₁, h₁, hold₁⟩ := h.fieldsIf hr true
  rw [describeCached, h₁, describe]
  dsimp only
  cases hf : r.fieldCatalog with
  | error e =>
    refine ⟨c₁, rfl, ?_⟩
    simpa [Except.isOk, Except.toBool] using hold₁
  | ok fields =>
    obtain ⟨c₂, h₂, hold₂⟩ := hold₁.keysIf hr true p.sortable
    dsimp only
    rw [h₂]
    refine ⟨c₂, ?_, hold₂⟩
    cases r.keyCatalog p.sortable <;> rfl

end Pipeline

namespace Use

variable {σ : Type} [DataSource σ]

section Run

variable {known : List OutputSchema} {c : CatalogCache} {u : Use σ} {F K : Finset OutputKey}

/-- A use gives what it gives without the store, and adds its keys to those that the store stands
for. -/
lemma perform_holds (h : c.Holds known F K) (hu : ∀ r, u.request? = some r → r.output ∈ known)
    (hc : u.isClear = false) :
    (u.perform c).1 = u.reply ∧
      (u.perform c).2.Holds known (F ∪ u.fieldsAt?.toFinset) (K ∪ u.keysAt?.toFinset) := by
  cases u with
  | fields r =>
    obtain ⟨hfound, hold⟩ := h.fieldCatalog (hu r rfl)
    refine ⟨congrArg Reply.fields hfound, ?_⟩
    show (c.fieldCatalog r).2.Holds known (F ∪ r.fieldsAt?.toFinset) (K ∪ ∅)
    rwa [Finset.union_empty]
  | keys r configured =>
    obtain ⟨hfound, hold⟩ := h.keyCatalog (hu r rfl) configured
    refine ⟨congrArg Reply.keys hfound, ?_⟩
    show (c.keyCatalog r configured).2.Holds known (F ∪ ∅) (K ∪ (r.keysAt? configured).toFinset)
    rwa [Finset.union_empty]
  | answer p r source =>
    obtain ⟨c', happly, hold⟩ := Pipeline.applyCached_holds p source h (hu r rfl)
    rw [perform, happly]
    exact ⟨rfl, hold⟩
  | describe p r =>
    obtain ⟨c', hdescribe, hold⟩ := Pipeline.describeCached_holds p h (hu r rfl)
    rw [perform, hdescribe]
    exact ⟨rfl, hold⟩
  | clear => cases hc

lemma run_concat (uses : List (Use σ)) (u : Use σ) (c : CatalogCache) :
    run (uses ++ [u]) c =
      ((run uses c).1 ++ [(u.perform (run uses c).2).1], (u.perform (run uses c).2).2) := by
  rw [run, List.foldl_append]
  rfl

/-- In a run every use gives what it gives without the store, and the store stands for the keys that
were derived since it was cleared. -/
lemma run_holds (uses : List (Use σ)) (hi : Identified (known.flatMap OutputSchema.stated))
    (hu : ∀ u ∈ uses, ∀ r, u.request? = some r → r.output ∈ known) :
    (run uses .empty).1 = uses.map reply ∧
      (run uses .empty).2.Holds known ((sinceClear uses).filterMap fieldsAt?).toFinset
        ((sinceClear uses).filterMap keysAt?).toFinset := by
  -- From the end, since what was derived since the store was cleared is told from there.
  induction uses using List.reverseRecOn with
  | nil => exact ⟨rfl, hi, .empty _ _, .empty _ _⟩
  | append_singleton uses u ih =>
    obtain ⟨hreplies, hold⟩ := ih fun u hmem => hu u (by simp [hmem])
    rw [run_concat, sinceClear_concat]
    cases hc : u.isClear with
    | true =>
      cases u with
      | clear =>
        refine ⟨?_, hi, .clear _, .clear _⟩
        rw [hreplies, List.map_append]
        rfl
      | fields | keys | answer | describe => cases hc
    | false =>
      obtain ⟨hreply, hstep⟩ := perform_holds hold (hu u (by simp)) hc
      refine ⟨?_, ?_⟩
      · rw [hreplies, hreply, List.map_append]
        rfl
      · have hconcat (key? : Use σ → Option OutputKey) :
            ((sinceClear uses ++ [u]).filterMap key?).toFinset =
              ((sinceClear uses).filterMap key?).toFinset ∪ (key? u).toFinset := by
          rw [List.filterMap_append, List.toFinset_append]
          cases hentry : key? u <;> simp [hentry]
        rw [if_neg Bool.false_ne_true, hconcat, hconcat]
        exact hstep

end Run

section Alike

/-- Two results are the same, and the stores behind them are related. -/
def Alike {α : Type} (R : CatalogCache → CatalogCache → Prop) (x y : α × CatalogCache) : Prop :=
  x.1 = y.1 ∧ R x.2 y.2

variable {R : CatalogCache → CatalogCache → Prop} {r : Request} {configured : Option (List String)}
  {c d : CatalogCache}

lemma fieldsIf_alike (hf : ∀ c d, R c d → Alike R (c.fieldCatalog r) (d.fieldCatalog r)) (needed : Bool)
    (h : R c d) : Alike R (c.fieldsIf needed r) (d.fieldsIf needed r) := by
  cases needed with
  | true =>
    obtain ⟨hfound, h'⟩ := hf c d h
    exact ⟨congrArg (Except.map Shared.catalog) hfound, h'⟩
  | false => exact ⟨rfl, h⟩

lemma keysIf_alike
    (hk : ∀ c d, R c d → Alike R (c.keyCatalog r configured) (d.keyCatalog r configured))
    (needed : Bool) (h : R c d) :
    Alike R (c.keysIf needed r configured) (d.keysIf needed r configured) := by
  cases needed with
  | true =>
    obtain ⟨hfound, h'⟩ := hk c d h
    exact ⟨congrArg (Except.map Shared.catalog) hfound, h'⟩
  | false => exact ⟨rfl, h⟩

lemma applyCached_alike (p : Pipeline) (source : σ)
    (hf : ∀ c d, R c d → Alike R (c.fieldCatalog r) (d.fieldCatalog r))
    (hk : ∀ c d, R c d → Alike R (c.keyCatalog r p.sortable) (d.keyCatalog r p.sortable))
    (h : R c d) : Alike R (p.applyCached r source c) (p.applyCached r source d) := by
  unfold Pipeline.applyCached
  obtain ⟨h₁, hR₁⟩ := fieldsIf_alike hf (Filter.needsCatalog p.config r) h
  dsimp only
  rw [h₁]
  cases p.applyFilter r (d.fieldsIf (Filter.needsCatalog p.config r) r).1 source with
  | error e => exact ⟨rfl, hR₁⟩
  | ok filtered =>
    obtain ⟨h₂, hR₂⟩ := fieldsIf_alike hf (Search.needsCatalog p.config r) hR₁
    dsimp only
    rw [h₂]
    split
    · exact ⟨rfl, hR₂⟩
    · obtain ⟨h₃, hR₃⟩ := keysIf_alike hk (Sorting.needsCatalog p.config r) hR₂
      rw [h₃]
      exact ⟨rfl, hR₃⟩

lemma describeCached_alike (p : Pipeline)
    (hf : ∀ c d, R c d → Alike R (c.fieldCatalog r) (d.fieldCatalog r))
    (hk : ∀ c d, R c d → Alike R (c.keyCatalog r p.sortable) (d.keyCatalog r p.sortable))
    (h : R c d) : Alike R (p.describeCached r c) (p.describeCached r d) := by
  unfold Pipeline.describeCached
  obtain ⟨h₁, hR₁⟩ := fieldsIf_alike hf true h
  dsimp only
  rw [h₁]
  cases (d.fieldsIf true r).1 with
  | error e => exact ⟨rfl, hR₁⟩
  | ok fields =>
    obtain ⟨h₂, hR₂⟩ := keysIf_alike hk true hR₁
    dsimp only
    rw [h₂]
    exact ⟨rfl, hR₂⟩

/-- Where looking up catalogs keeps two stores related, a whole use does, and it gives the same for
both. -/
lemma perform_alike {u : Use σ} (hu : u.request? = some r)
    (hf : ∀ c d, R c d → Alike R (c.fieldCatalog r) (d.fieldCatalog r))
    (hk : ∀ c d, R c d → Alike R (c.keyCatalog r u.configured) (d.keyCatalog r u.configured))
    (h : R c d) : Alike R (u.perform c) (u.perform d) := by
  cases u with
  | fields r' =>
    cases hu
    obtain ⟨hfound, h'⟩ := hf c d h
    exact ⟨congrArg (Reply.fields ∘ Except.map Shared.catalog) hfound, h'⟩
  | keys r' configured =>
    cases hu
    obtain ⟨hfound, h'⟩ := hk c d h
    exact ⟨congrArg (Reply.keys ∘ Except.map Shared.catalog) hfound, h'⟩
  | answer p r' source =>
    cases hu
    obtain ⟨hfound, h'⟩ := applyCached_alike p source hf hk h
    exact ⟨congrArg Reply.answer hfound, h'⟩
  | describe p r' =>
    cases hu
    obtain ⟨hfound, h'⟩ := describeCached_alike p hf hk h
    exact ⟨congrArg Reply.describe hfound, h'⟩
  | clear => cases hu

end Alike

section Parts

variable {u : Use σ} {r : Request}

/-- A request that states its fields passes by those in the store. -/
lemma passesFields (hu : u.request? = some r) (hs : r.filterable.isSome) : u.PassesFields := by
  intro c shelf
  obtain ⟨fields, hs⟩ := Option.isSome_iff_exists.mp hs
  have h := perform_alike (R := fun c d => c = { d with fields := shelf }) hu ?_ ?_
    (rfl : { c with fields := shelf } = { c with fields := shelf })
  · exact Prod.ext h.1 h.2
  · rintro _ d rfl
    unfold CatalogCache.fieldCatalog
    rw [hs]
    exact ⟨rfl, rfl⟩
  · rintro _ d rfl
    unfold CatalogCache.keyCatalog
    cases r.statedKeys u.configured <;> exact ⟨rfl, rfl⟩

/-- A request whose sort keys are stated passes by those in the store. -/
lemma passesKeys (hu : u.request? = some r) (hs : (r.statedKeys u.configured).isSome) :
    u.PassesKeys := by
  intro c shelf
  obtain ⟨names, hs⟩ := Option.isSome_iff_exists.mp hs
  have h := perform_alike (R := fun c d => c = { d with keys := shelf }) hu ?_ ?_
    (rfl : { c with keys := shelf } = { c with keys := shelf })
  · exact Prod.ext h.1 h.2
  · rintro _ d rfl
    unfold CatalogCache.fieldCatalog
    cases r.filterable <;> exact ⟨rfl, rfl⟩
  · rintro _ d rfl
    unfold CatalogCache.keyCatalog
    rw [hs]
    exact ⟨rfl, rfl⟩

/-- Where the fields of a request cannot be derived, a use leaves those in the store as they are. -/
lemma perform_fields_of_error (hu : u.request? = some r) {e : FilterError}
    (he : r.output.fieldCatalog = .error e) (c : CatalogCache) :
    (u.perform c).2.fields = c.fields := by
  refine (perform_alike (R := fun c' d => c' = d ∧ d.fields = c.fields) hu ?_ ?_ ⟨rfl, rfl⟩).2.2
  · rintro c' _ ⟨rfl, h⟩
    refine ⟨rfl, rfl, ?_⟩
    rw [CatalogCache.fieldCatalog_of_error he, h]
  · rintro c' _ ⟨rfl, h⟩
    refine ⟨rfl, rfl, ?_⟩
    rw [CatalogCache.keyCatalog_fields, h]

lemma perform_keys_of_error (hu : u.request? = some r) {e : FilterError}
    (he : r.output.keyCatalog = .error e) (c : CatalogCache) : (u.perform c).2.keys = c.keys := by
  refine (perform_alike (R := fun c' d => c' = d ∧ d.keys = c.keys) hu ?_ ?_ ⟨rfl, rfl⟩).2.2
  · rintro c' _ ⟨rfl, h⟩
    refine ⟨rfl, rfl, ?_⟩
    rw [CatalogCache.fieldCatalog_keys, h]
  · rintro c' _ ⟨rfl, h⟩
    refine ⟨rfl, rfl, ?_⟩
    rw [CatalogCache.keyCatalog_of_error he, h]

end Parts

/-- Where functions of one identity are one function, nobody sees the store: in any run every use gives
what it gives without it. The store has as many catalogs of each sort as there are different keys
derived since it was cleared, a use passes by what its request states, and a catalog that cannot be
derived leaves no trace. -/
theorem run_transparent (uses : List (Use σ))
    (hi : Identified ((uses.filterMap output?).flatMap OutputSchema.stated)) :
    (run uses .empty).1 = uses.map reply ∧
    (run uses .empty).2.fields.size = ((sinceClear uses).filterMap fieldsAt?).dedup.length ∧
    (run uses .empty).2.keys.size = ((sinceClear uses).filterMap keysAt?).dedup.length ∧
    ∀ u ∈ uses, ∀ r, u.request? = some r →
      (r.filterable.isSome → u.PassesFields) ∧
      ((r.statedKeys u.configured).isSome → u.PassesKeys) ∧
      (∀ e, r.output.fieldCatalog = .error e →
        ∀ c, (c.fieldCatalog r).2 = c ∧ (u.perform c).2.fields = c.fields) ∧
      ∀ e, r.output.keyCatalog = .error e →
        ∀ c, (c.keyCatalog r u.configured).2 = c ∧ (u.perform c).2.keys = c.keys := by
  have houtput : ∀ u ∈ uses, ∀ r, u.request? = some r → r.output ∈ uses.filterMap output? := by
    intro u hu r hr
    refine List.mem_filterMap.mpr ⟨u, hu, ?_⟩
    rw [output?, hr]
    rfl
  obtain ⟨hreplies, hold⟩ := run_holds uses hi houtput
  refine ⟨hreplies, ?_, ?_, fun u _ r hr => ⟨passesFields hr, passesKeys hr, ?_, ?_⟩⟩
  · rw [hold.fields.size_eq, List.card_toFinset]
  · rw [hold.keys.size_eq, List.card_toFinset]
  · intro e he c
    exact ⟨CatalogCache.fieldCatalog_of_error he c, perform_fields_of_error hr he c⟩
  · intro e he c
    exact ⟨CatalogCache.keyCatalog_of_error he c _, perform_keys_of_error hr he c⟩

/-- The blanks at the ends of a value do not count. -/
def trimming : Converter := ⟨1, fun x => String.ofList (Text.trim x.toList)⟩

/-- The request for a list of cities that states its fields. -/
def statedCities : Request where
  params := .ofPairs [("name", "like:ro"), ("ordering", "-id")]
  output := {
    name := "City"
    fields := [.ofColumn ⟨"id", .integer⟩, .ofColumn ⟨"name", .text⟩]
    filterable := some
      [.ofColumn "id" .integer, ⟨"name", .path "name", some trimming, .string, false⟩]
    sortable := none }

/-- The request for a list that states a field twice. -/
def twiceStated : Request where
  params := .empty
  output := ⟨"City", [], some [.ofColumn "id" .integer, .ofColumn "id" .float], none⟩

/-- Uses that derive, find and pass by catalogs. In between the store is cleared, and a catalog cannot be
derived. -/
def cityUses (v : View) : List (Use View) :=
  [.fields statedCities, .clear, .answer ⟨.usual, none⟩ statedCities v, .fields twiceStated,
    .keys twiceStated none, .keys statedCities (some ["name"]),
    .describe ⟨.usual, none⟩ { statedCities with filterable := some [] }]

/-- The only function among the fields is the converter. -/
lemma cityUses_identified (v : View) :
    Identified (((cityUses v).filterMap output?).flatMap OutputSchema.stated) := by
  have hstated : ∀ f ∈ ((cityUses v).filterMap output?).flatMap OutputSchema.stated,
      (∀ a, f.converter = some a → a = trimming) ∧ ∀ b, f.source ≠ .custom b := by
    simp [cityUses, output?, request?, statedCities, twiceStated, OutputSchema.stated,
      Field.ofColumn, or_imp, forall_and]
  constructor
  · intro f hf g hg a b ha hb _
    rw [(hstated f hf).1 a ha, (hstated g hg).1 b hb]
  · intro f hf _ _ a _ ha _ _
    exact absurd ha ((hstated f hf).2 a)

/-- The store ends with one catalog of fields and two of sort keys. -/
theorem cityUses_run_transparent : ∃ t, Dataset.cities.table = .ok t ∧
    let uses := cityUses (View.ofTable t)
    Identified ((uses.filterMap output?).flatMap OutputSchema.stated) ∧
    (run uses .empty).1 = uses.map reply ∧ (run uses .empty).2.fields.size = 1 ∧
    (run uses .empty).2.keys.size = 2 ∧
    PassesKeys (.keys statedCities (some ["name"]) : Use View) ∧
    ∀ c : CatalogCache, (c.fieldCatalog twiceStated).2 = c := by
  refine ⟨_, Dataset.cities_table, cityUses_identified _, ?_⟩
  obtain ⟨hreplies, hfields, hkeys, hparts⟩ := run_transparent _ (cityUses_identified (View.ofTable
    ⟨Dataset.cities.schema, [[.int 2, .string "Rome"], [.int 1, .null]]⟩))
  refine ⟨hreplies, hfields.trans (by decide +kernel), hkeys.trans (by decide +kernel), ?_, ?_⟩
  · exact (hparts (.keys statedCities (some ["name"])) (by simp [cityUses]) _ rfl).2.1 rfl
  · intro c
    have htwice : twiceStated.output.fieldCatalog = .error (.duplicateField "id") := rfl
    exact ((hparts (.fields twiceStated) (by simp [cityUses]) _ rfl).2.2.1 _ htwice c).1

end Use

end RowQuery
