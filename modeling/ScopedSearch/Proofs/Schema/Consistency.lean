import Mathlib.Data.Set.Finite.List
import ScopedSearch.Proofs.Schema.Aggregations

/-!
# What the check of the tables promises

Tables without a gap make every scalar field of every schema filterable.  They do not make it
aggregatable: the check looks up the histogram of a client type, but a field that holds lists is exposed
under the list of it, and a nested field under its own name.  What the tables must have besides is told
by `TypeTables.Complete` (`promise_iff`).
-/

namespace ScopedSearch

namespace TypeTables

/-- A field is scalar when its type has a client type that is not that of objects. -/
def Scalar (tables : TypeTables) (t : FieldType) : Prop :=
  ∃ client, tables.clientType? t.esType = some client ∧ client ≠ objectType

/-- **Complete tables**: every scalar type of the index can be aggregated, alone and in lists, and
nested fields are objects, if they can be exposed at all. -/
structure Complete (tables : TypeTables) : Prop where
  single : ∀ esType client, tables.clientType? esType = some client → client ≠ objectType →
    esType ≠ "nested" → tables.Aggregates client
  list : ∀ esType client, tables.clientType? esType = some client → client ≠ objectType →
    esType ≠ "nested" → tables.Aggregates (Schema.listOf client)
  nested : ∀ client, tables.clientType? "nested" = some client → client = objectType

variable {tables : TypeTables}

theorem class?_of_firstGap (h : tables.firstGap = none) {t : FieldType} (ht : tables.Scalar t) :
    (tables.class? t.esType).isSome = true := by
  obtain ⟨client, hclient, hne⟩ := ht
  rw [firstGap, Option.or_eq_none_iff, List.findSome?_eq_none_iff] at h
  have hgap := h.1 _ (mem_of_lookup hclient)
  by_contra hclass
  have hnone : tables.class? t.esType = none := by simpa using hclass
  simp [clientGap, hne, hnone] at hgap

theorem Scalar.maps {t : FieldType} (h : tables.Scalar t) : tables.Maps t := by
  obtain ⟨client, hclient, -⟩ := h
  simp [Maps, hclient]

/-- Complete tables have a histogram for every scalar field, under whatever type it is exposed. -/
theorem Complete.aggregates (h : tables.Complete) {name : String} {t : FieldType}
    (ht : tables.Scalar t) : tables.Aggregates (Schema.exposedName tables name t) := by
  obtain ⟨client, hclient, hne⟩ := ht
  have hnested : t.esType ≠ "nested" := by
    intro hn
    rw [hn] at hclient
    exact hne (h.nested client hclient)
  have hn : ¬ t.isNested = true := fun hn => hnested (Schema.isNested_iff.mp hn)
  simp only [Schema.exposedName, hclient, Option.getD_some, if_neg hn]
  split
  · exact h.list _ client hclient hne hnested
  · exact h.single _ client hclient hne hnested

end TypeTables

/-! ### What the check leaves open -/

def Text.capitals (n : ℕ) : String := String.ofList (List.replicate (n + 1) 'A')

theorem Text.capitalize_capitals (n : ℕ) : capitalize (capitals n) = capitals n := by
  have hupper : upperChar 'A' = ['A'] := by decide
  simp [capitalize, capitals, List.replicate_succ, hupper]

theorem Text.capitals_injective : Function.Injective capitals := by
  intro m n h
  simpa [capitals] using congrArg String.length h

/-- Some nested field is not exposed under a type that can be aggregated: a table has only so many
entries. -/
theorem TypeTables.exists_not_aggregates (tables : TypeTables) :
    ∃ name, ¬ tables.Aggregates (Schema.listOf (Text.capitalize name)) := by
  by_contra hall
  have hkeys : ∀ n, Schema.listOf (Text.capitals n) ∈ {key | key ∈ tables.histograms.map Prod.fst} := by
    intro n
    obtain ⟨h, hh, -⟩ : tables.Aggregates (Schema.listOf (Text.capitals n)) := by
      rw [← Text.capitalize_capitals]
      exact not_not.mp (not_exists.mp hall _)
    exact List.mem_map_of_mem (f := Prod.fst) (mem_of_lookup hh)
  exact Set.infinite_of_injective_forall_mem
    (Schema.listOf_injective.comp Text.capitals_injective) hkeys (List.finite_toSet _)

namespace Schema

variable {tables : TypeTables}

def oneField (name esType : String) (isArray : Bool) : Catalog :=
  ⟨[("i", [(name, .mk esType isArray none)])]⟩

variable {name esType : String} {isArray : Bool}

theorem keyed_oneField : (oneField name esType isArray).Keyed := by
  simp [oneField, Catalog.Keyed, Fields.Keyed, Fields.names, FieldType.AllKeyed, FieldType.Keyed]

theorem exists_generate_oneField (name : String) (hgap : tables.firstGap = none)
    (hm : tables.Maps (.mk esType isArray none)) :
    ∃ s, generate tables (oneField name esType isArray) [⟨"i", "case"⟩] = .ok s := by
  refine generate_ok_iff.mpr ⟨hgap, exists_contributions_of_mapped ?_ ?_ ?_⟩
  · simp only [List.mem_singleton, forall_eq]
    rfl
  · intro config hconfig q hq
    obtain rfl := List.mem_singleton.mp hconfig
    change q ∈ Fields.reached [(name, .mk esType isArray none)] at hq
    obtain rfl : q = (name, .mk esType isArray none) := by
      simpa [Fields.reached, FieldType.reachedBelow] using hq
    exact hm
  · intro c hc d hd hne
    rw [List.mem_singleton.mp hc, List.mem_singleton.mp hd] at hne
    exact absurd rfl hne

/-- Every scalar field of every schema is in the aggregations of its index. -/
def AllAggregated (tables : TypeTables) : Prop :=
  ∀ (catalog : Catalog) (configs : List IndexConfig) (s : Schema), catalog.Keyed →
    generate tables catalog configs = .ok s →
      ∀ config t, (config, t) ∈ configs.zip (s.aggregationTypes configs) →
        ∀ p ∈ catalog.top config.index, tables.Scalar p.2 → p.1 ∈ FieldDef.names t.fields.tail

theorem AllAggregated.aggregates (h : AllAggregated tables) (hgap : tables.firstGap = none)
    (hs : tables.Scalar (.mk esType isArray none)) (name : String) :
    tables.Aggregates (exposedName tables name (.mk esType isArray none)) := by
  obtain ⟨s, hgen⟩ := exists_generate_oneField name hgap hs.maps
  have hp : (name, .mk esType isArray none) ∈ (oneField name esType isArray).top "i" :=
    List.mem_singleton_self _
  let config : IndexConfig := ⟨"i", "case"⟩
  have hzip : (config, topAggregation tables (oneField name esType isArray) config) ∈
      [config].zip (s.aggregationTypes [config]) := by
    rw [(aggregationTypes_of_generate hgen).2]
    exact List.mem_singleton_self _
  exact (mem_names_topAggregation keyed_oneField hp).mp
    (h _ _ s keyed_oneField hgen _ _ hzip _ hp hs)

theorem allAggregated_of_complete (h : tables.Complete) : AllAggregated tables := by
  intro catalog configs s hk hgen config t hzip p hp hs
  rw [(aggregationTypes_of_generate hgen).2] at hzip
  obtain ⟨-, rfl⟩ := mem_zip_map hzip
  exact (mem_names_topAggregation hk hp).mpr (h.aggregates hs)

theorem complete_of_allAggregated (h : AllAggregated tables) (hgap : tables.firstGap = none) :
    tables.Complete where
  single := by
    intro esType client hclient hne hnested
    have hs : tables.Scalar (.mk esType false none) := ⟨client, hclient, hne⟩
    simpa [exposedName, FieldType.isNested, FieldType.esType, FieldType.isArray, hnested, hclient]
      using h.aggregates hgap hs "field"
  list := by
    intro esType client hclient hne hnested
    have hs : tables.Scalar (.mk esType true none) := ⟨client, hclient, hne⟩
    simpa [exposedName, FieldType.isNested, FieldType.esType, FieldType.isArray, hnested, hclient]
      using h.aggregates hgap hs "field"
  nested := by
    intro client hclient
    by_contra hne
    have hs : tables.Scalar (.mk "nested" false none) := ⟨client, hclient, hne⟩
    obtain ⟨name, hname⟩ := tables.exists_not_aggregates
    have haggs := h.aggregates hgap hs name
    rw [exposedName_of_isNested (p := (name, .mk "nested" false none)) rfl] at haggs
    exact hname haggs

/-- **What the check of the tables promises.**  Under tables without a gap, equality filters are
accepted on every scalar field of a catalog.  That every scalar field of every schema is in the
aggregations of its index is promised by complete tables only. -/
theorem consistency_promise_iff (tables : TypeTables) (hgap : tables.firstGap = none) :
    (∀ catalog : Catalog, catalog.Keyed → ∀ index, ∀ p ∈ catalog.top index, tables.Scalar p.2 →
      ∀ operator value, Operator.ofSpelling? operator = some .eq →
        (⟨tables, catalog.top index⟩ : Lexicon).Accepts (.equality operator p.1 value)) ∧
    (AllAggregated tables ↔ tables.Complete) := by
  refine ⟨?_, fun h => complete_of_allAggregated h hgap, allAggregated_of_complete⟩
  intro catalog hk index p hp hs operator value ho
  exact (Lexicon.accepts_equality_of_mem (hk.top index) hp ho).mpr
    (TypeTables.class?_of_firstGap hgap hs)

end Schema

theorem TypeTables.complete_standard : TypeTables.standard.Complete := by
  have hscalars : ∀ e ∈ standard.clientTypes, e.2 ≠ objectType →
      standard.Aggregates e.2 ∧ standard.Aggregates (Schema.listOf e.2) := by decide +kernel
  have hnested : ∀ e ∈ standard.clientTypes, e.1 = "nested" → e.2 = objectType := by decide +kernel
  constructor
  · intro esType client hclient hne _
    exact (hscalars _ (mem_of_lookup hclient) hne).1
  · intro esType client hclient hne _
    exact (hscalars _ (mem_of_lookup hclient) hne).2
  · intro client hclient
    exact hnested _ (mem_of_lookup hclient) rfl

namespace Schema

/-- Under the tables in use the days of the cases are accepted in filters, and every scalar field of
every schema is aggregated. -/
theorem consistency_promise_iff_of_standard :
    TypeTables.standard.firstGap = none ∧ Catalog.studies.Keyed ∧
    ("day", .mk "long" false none) ∈ Catalog.studies.top "cases" ∧
    TypeTables.standard.Scalar (.mk "long" false none) ∧
    (⟨.standard, Catalog.studies.top "cases"⟩ : Lexicon).Accepts (.equality "=" "day" (.int 3)) ∧
    TypeTables.standard.Complete ∧ AllAggregated .standard := by
  obtain ⟨hfilter, haggregated⟩ :=
    consistency_promise_iff .standard TypeTables.firstGap_standard
  have hday : ("day", .mk "long" false none) ∈ Catalog.studies.top "cases" := List.mem_cons_self ..
  have hscalar : TypeTables.standard.Scalar (.mk "long" false none) := ⟨"Float", by decide +kernel⟩
  exact ⟨TypeTables.firstGap_standard, Catalog.keyed_studies, hday, hscalar,
    hfilter _ Catalog.keyed_studies "cases" _ hday hscalar "=" (.int 3) rfl,
    TypeTables.complete_standard, haggregated.mpr TypeTables.complete_standard⟩

end Schema

/-- Tables of one type, of which the lists have no histogram. -/
def TypeTables.keywords : TypeTables where
  clientTypes := [("keyword", "String")]
  classes := [("keyword", .text)]
  histograms := [("String", stringHistogram)]

namespace Schema

/-- The tables have no gap, and the field is scalar, but as it holds lists it is not in the aggregations
of its index. -/
theorem not_consistency_promise_of_keywords :
    TypeTables.keywords.firstGap = none ∧
    ∃ s, generate .keywords (oneField "tags" "keyword" true) [⟨"i", "case"⟩] = .ok s ∧
      ∃ p ∈ (oneField "tags" "keyword" true).top "i", TypeTables.keywords.Scalar p.2 ∧
        ∀ t ∈ s.aggregationTypes [⟨"i", "case"⟩], p.1 ∉ FieldDef.names t.fields := by
  have hgap : TypeTables.keywords.firstGap = none := by decide +kernel
  have hs : TypeTables.keywords.Scalar (.mk "keyword" true none) := ⟨"String", by decide +kernel⟩
  obtain ⟨s, hgen⟩ := exists_generate_oneField "tags" hgap hs.maps
  refine ⟨hgap, s, hgen, _, List.mem_singleton_self _, hs, ?_⟩
  rw [(aggregationTypes_of_generate hgen).2]
  decide +kernel

end Schema

end ScopedSearch
