import ScopedSearch.Proofs.Schema.Exposure

/-!
# Unique names

When a schema defines nothing twice.  Nested fields are taken up by their own names, but types are
named by capitals, and the types and fields that every schema has share their names with what the
indices bring in.  So a schema of a keyed catalog defines nothing twice exactly when its indices and
nested fields keep their names apart (`namesUnique_iff`).
-/

namespace ScopedSearch

/-! ### Capitals -/

namespace Text

theorem capitalPoints_ne_nil (n : ℕ) : capitalPoints n ≠ [] := by
  have hlong : ∀ e ∈ longCapitals, e.2 ≠ [] := by decide
  unfold capitalPoints
  split
  · rename_i ns hns
    obtain ⟨before, after, he, -⟩ := List.lookup_eq_some_iff.mp hns
    exact hlong (n, ns) (by rw [he]; simp)
  · split <;> simp

theorem upperChar_ne_nil (c : Char) : upperChar c ≠ [] := by
  unfold upperChar
  split
  · simp
  · simpa using capitalPoints_ne_nil c.toNat

theorem capitalize_eq_empty {s : String} : capitalize s = "" ↔ s = "" := by
  unfold capitalize
  split
  · rename_i h
    simp [String.toList_eq_nil_iff.mp h]
  · rename_i c r h
    have hs : s ≠ "" := by
      rintro rfl
      simp at h
    simp [hs, upperChar_ne_nil]

end Text

namespace Schema

def fixedNames : List String :=
  ["MatchedItem", "Query", "Aggregation", "Mapping"] ++
    (histogramTypes ++ bucketTypes).map ObjectType.name

theorem nodup_fixedNames : fixedNames.Nodup := by decide +kernel

theorem eq_of_suffix_of_mem_fixedNames :
    ∀ name ∈ fixedNames, "Aggregation".toList <:+ name.toList → name = "Aggregation" := by
  decide +kernel

theorem aggregationName_mem_fixedNames {type : String} :
    aggregationName type ∈ fixedNames ↔ type = "" := by
  constructor
  · intro h
    have hlist : (aggregationName type).toList =
        (Text.capitalize type).toList ++ "Aggregation".toList := by simp [aggregationName]
    have hname := eq_of_suffix_of_mem_fixedNames _ h ⟨_, hlist.symm⟩
    rw [hname, eq_comm, List.append_left_eq_self] at hlist
    exact Text.capitalize_eq_empty.mp (String.toList_eq_nil_iff.mp hlist)
  · rintro rfl
    decide +kernel

theorem append_aggregation_injective : Function.Injective fun s : String => s ++ "Aggregation" := by
  intro s t h
  simpa [← String.toList_inj] using h

/-! ### Names that are kept apart -/

/-- No two object types of a schema have the same name, and no two fields of an object type. -/
structure NamesUnique (s : Schema) : Prop where
  types : s.typeNames.Nodup
  fields : ∀ t ∈ s.types, t.FieldsUnique

instance (s : Schema) : Decidable s.NamesUnique :=
  decidable_of_iff (s.typeNames.Nodup ∧ ∀ t ∈ s.types, t.FieldsUnique)
    ⟨fun h => ⟨h.1, h.2⟩, fun h => ⟨h.types, h.fields⟩⟩

/-- The indices of a catalog and the nested fields that are taken up keep their names apart from each
other and from those that every schema has. -/
structure NamesApart (tables : TypeTables) (catalog : Catalog) (configs : List IndexConfig)
    (names : List String) : Prop where
  /-- No two indices are exposed under one capital. -/
  indices : (configs.map fun config => Text.capitalize config.type).Nodup
  /-- No two nested fields have the same capital. -/
  nested : ∀ n ∈ names, ∀ m ∈ names, Text.capitalize n = Text.capitalize m → n = m
  /-- No index is exposed under the capital of a nested field. -/
  across : ∀ config ∈ configs, ∀ n ∈ names, Text.capitalize config.type ≠ Text.capitalize n
  /-- No capital is the name of a type that every schema has. -/
  fixed : ∀ n ∈ configs.map IndexConfig.type ++ names, Text.capitalize n ∉ fixedNames
  /-- No capital is the name of the aggregations of an index. -/
  aggregations : ∀ n ∈ configs.map IndexConfig.type ++ names, ∀ config ∈ configs,
    Text.capitalize n ≠ aggregationName config.type
  /-- Every index is exposed under a name. -/
  named : ∀ config ∈ configs, config.type ≠ ""
  /-- No entry point has the name of one that every schema has. -/
  entries : ∀ n ∈ configs.map IndexConfig.type ++ names, n ≠ "_aggregation" ∧ n ≠ "_mapping"
  /-- No index has a field with the name of one that is added to its type. -/
  matched : ∀ config ∈ configs, ∀ fields, catalog.fields config.index = .ok fields →
    "_matched" ∉ Fields.names fields
  /-- No index has a field with the name of one that is added to its aggregations. -/
  total : ∀ config ∈ configs, ∀ fields, catalog.fields config.index = .ok fields →
    "_totalCount" ∉ Fields.names (fields.filter (hasHistogram tables config.index))

variable {tables : TypeTables} {catalog : Catalog} {configs : List IndexConfig} {names : List String}
  {c : Contribution}

/-! ### Type names -/

/-- The types of a schema: one for each exposed name, one for each index's aggregations, and those
that every schema has. -/
theorem perm_typeNames
    (ht : (c.types.map ObjectType.name).Perm
      ((configs.map IndexConfig.type ++ names).map Text.capitalize))
    (ha : c.aggregations.map ObjectType.name = configs.map fun config => aggregationName config.type) :
    (assemble configs c).typeNames.Perm
      ((configs.map IndexConfig.type ++ names).map Text.capitalize ++
        (configs.map fun config => aggregationName config.type) ++ fixedNames) := by
  change ((assemble configs c).types.map ObjectType.name).Perm _
  refine List.perm_iff_count.mpr fun name => ?_
  have hcount := ht.count_eq name
  simp only [assemble, fixedNames, matchedItemType, queryType, aggregationRoot, mappingType,
    List.map_append, List.map_cons, List.map_nil, List.count_append, List.count_cons, List.count_nil,
    ha] at hcount ⊢
  omega

theorem nodup_capitals (hn : names.Nodup) :
    ((configs.map IndexConfig.type ++ names).map Text.capitalize).Nodup ↔
      (configs.map fun config => Text.capitalize config.type).Nodup ∧
      (∀ n ∈ names, ∀ m ∈ names, Text.capitalize n = Text.capitalize m → n = m) ∧
      ∀ config ∈ configs, ∀ n ∈ names, Text.capitalize config.type ≠ Text.capitalize n := by
  rw [List.map_append, List.map_map, List.nodup_append, List.nodup_map_iff_inj_on hn]
  simp [Function.comp_def]

theorem nodup_typeNames_iff
    (ht : (c.types.map ObjectType.name).Perm
      ((configs.map IndexConfig.type ++ names).map Text.capitalize))
    (ha : c.aggregations.map ObjectType.name = configs.map fun config => aggregationName config.type) :
    (assemble configs c).typeNames.Nodup ↔
      ((configs.map IndexConfig.type ++ names).map Text.capitalize).Nodup ∧
      (∀ n ∈ configs.map IndexConfig.type ++ names, Text.capitalize n ∉ fixedNames) ∧
      (∀ n ∈ configs.map IndexConfig.type ++ names, ∀ config ∈ configs,
        Text.capitalize n ≠ aggregationName config.type) ∧
      ∀ config ∈ configs, config.type ≠ "" := by
  rw [(perm_typeNames ht ha).nodup_iff, List.nodup_append, List.nodup_append]
  constructor
  · rintro ⟨⟨hcap, -, hagg⟩, -, hfixed⟩
    refine ⟨hcap, ?_, ?_, ?_⟩
    · intro n hn hmem
      exact hfixed _ (List.mem_append_left _ (List.mem_map_of_mem hn)) _ hmem rfl
    · intro n hn config hc
      exact hagg _ (List.mem_map_of_mem hn) _ (List.mem_map_of_mem hc)
    · intro config hc htype
      have hmem := aggregationName_mem_fixedNames.mpr htype
      exact hfixed _ (List.mem_append_right _ (List.mem_map_of_mem hc)) _ hmem rfl
  · rintro ⟨hcap, hfixed, hagg, hnamed⟩
    -- aggregations are named after the capitals of their indices
    have haggs : (configs.map fun config => aggregationName config.type).Nodup := by
      rw [List.map_append] at hcap
      simpa [aggregationName, Function.comp_def] using
        (List.nodup_append.mp hcap).1.map append_aggregation_injective
    refine ⟨⟨hcap, haggs, ?_⟩, nodup_fixedNames, ?_⟩
    · intro a hmem b hb
      obtain ⟨n, hn, rfl⟩ := List.mem_map.mp hmem
      obtain ⟨config, hc, rfl⟩ := List.mem_map.mp hb
      exact hagg n hn config hc
    · rintro a hmem b hb rfl
      rcases List.mem_append.mp hmem with hmem | hmem
      · obtain ⟨n, hn, rfl⟩ := List.mem_map.mp hmem
        exact hfixed n hn hb
      · obtain ⟨config, hc, rfl⟩ := List.mem_map.mp hmem
        exact hnamed config hc (aggregationName_mem_fixedNames.mp hb)

/-! ### Field names -/

theorem fieldsUnique_fixed :
    ∀ t ∈ matchedItemType :: (histogramTypes ++ bucketTypes), t.FieldsUnique := by
  decide +kernel

theorem fieldsUnique_aggregationRoot :
    (aggregationRoot configs).FieldsUnique ↔ (configs.map IndexConfig.type).Nodup := by
  simp [ObjectType.FieldsUnique, FieldDef.names, aggregationRoot, Function.comp_def]

theorem fieldsUnique_mappingType :
    (mappingType configs).FieldsUnique ↔ (configs.map IndexConfig.type).Nodup := by
  simp [ObjectType.FieldsUnique, FieldDef.names, mappingType, FieldDef.plain, Function.comp_def]

theorem fieldsUnique_queryType
    (he : (FieldDef.names c.entries).Perm (configs.map IndexConfig.type ++ names)) :
    (queryType c.entries).FieldsUnique ↔ (configs.map IndexConfig.type ++ names).Nodup ∧
      ∀ n ∈ configs.map IndexConfig.type ++ names, n ≠ "_aggregation" ∧ n ≠ "_mapping" := by
  have hnames : FieldDef.names (queryType c.entries).fields =
      FieldDef.names c.entries ++ ["_aggregation", "_mapping"] := by
    simp [FieldDef.names, queryType, FieldDef.plain]
  rw [ObjectType.FieldsUnique, hnames, (he.append_right _).nodup_iff, List.nodup_append]
  simp

theorem fieldsUnique_assemble :
    (∀ t ∈ (assemble configs c).types, t.FieldsUnique) ↔
      (queryType c.entries).FieldsUnique ∧ (∀ t ∈ c.types, t.FieldsUnique) ∧
      (configs.map IndexConfig.type).Nodup ∧ ∀ t ∈ c.aggregations, t.FieldsUnique := by
  obtain ⟨hmatched, hfixed⟩ := List.forall_mem_cons.mp fieldsUnique_fixed
  obtain ⟨hhist, hbuckets⟩ := List.forall_mem_append.mp hfixed
  simp only [assemble, List.cons_append, List.nil_append, List.forall_mem_cons, List.forall_mem_append,
    fieldsUnique_aggregationRoot, fieldsUnique_mappingType, List.not_mem_nil]
  tauto

/-! ### When nothing is defined twice -/

/-- **A schema of a keyed catalog defines nothing twice exactly when its names are kept apart.** -/
theorem namesUnique_iff (tables : TypeTables) (configs : List IndexConfig) (hc : catalog.Keyed)
    {s : Schema} (h : generate tables catalog configs = .ok s) :
    ∃ names, nestedNames catalog configs [] = .ok names ∧
      (s.NamesUnique ↔ NamesApart tables catalog configs names) := by
  unfold generate at h
  split at h
  · cases h
  obtain ⟨c, hcon, rfl⟩ := map_ok_iff.mp h
  obtain ⟨names, hnames, hentries, htypes, haggs⟩ := perm_of_contributions hcon
  have hn : names.Nodup := by
    simpa [Nested.taken] using nodup_of_nestedNames (by simp [Nested.taken]) hnames
  refine ⟨names, hnames, ?_⟩
  constructor
  · rintro ⟨htn, hfields⟩
    obtain ⟨hcap, hfixed, hagg, hnamed⟩ := (nodup_typeNames_iff htypes haggs).mp htn
    obtain ⟨hquery, hmatched, -, htotal⟩ := fieldsUnique_assemble.mp hfields
    obtain ⟨hind, hnest, hacross⟩ := (nodup_capitals hn).mp hcap
    exact
      { indices := hind
        nested := hnest
        across := hacross
        fixed := hfixed
        aggregations := hagg
        named := hnamed
        entries := ((fieldsUnique_queryType hentries).mp hquery).2
        matched := (fieldsUnique_types hc hcon).mp hmatched
        total := (fieldsUnique_aggregations hc hcon).mp htotal }
  · intro ha
    have hcap := (nodup_capitals hn).mpr ⟨ha.indices, ha.nested, ha.across⟩
    have hexposed : (configs.map IndexConfig.type ++ names).Nodup := hcap.of_map _
    refine ⟨(nodup_typeNames_iff htypes haggs).mpr ⟨hcap, ha.fixed, ha.aggregations, ha.named⟩, ?_⟩
    exact fieldsUnique_assemble.mpr
      ⟨(fieldsUnique_queryType hentries).mpr ⟨hexposed, ha.entries⟩,
        (fieldsUnique_types hc hcon).mpr ha.matched, (List.nodup_append.mp hexposed).1,
        (fieldsUnique_aggregations hc hcon).mpr ha.total⟩

end Schema

def Catalog.cases : Catalog :=
  let files := ("files", FieldType.mk "nested" false (some [("name", .mk "keyword" false none)]))
  ⟨[("i", [("visits", .mk "nested" false (some [files])),
    ("samples", .mk "nested" true (some [files]))])]⟩

/-- An index with two nested fields whose names differ in the case of the first letter only. -/
def Catalog.visits : Catalog :=
  ⟨[("i", [("visit", .mk "nested" false (some [("day", .mk "keyword" false none)])),
    ("Visit", .mk "nested" false (some [("day", .mk "keyword" false none)]))])]⟩

namespace Schema

theorem exists_of_generate (tables : TypeTables) (catalog : Catalog) (configs : List IndexConfig)
    (P : Schema → Prop) [DecidablePred P] {b : Bool}
    (h : (generate tables catalog configs).toOption.map (fun s => decide (P s)) = some b) :
    ∃ s, generate tables catalog configs = .ok s ∧ (P s ↔ b = true) := by
  cases hg : generate tables catalog configs with
  | error f => simp [hg, Except.toOption] at h
  | ok s =>
    refine ⟨s, rfl, ?_⟩
    simp only [hg, Except.toOption, Option.map_some, Option.some.injEq] at h
    rw [← h, decide_eq_true_iff]

theorem namesUnique_iff_of_cases :
    Catalog.cases.Keyed ∧ ∃ s, generate .standard Catalog.cases [⟨"i", "case"⟩] = .ok s ∧
      s.NamesUnique ∧ ∃ names, nestedNames Catalog.cases [⟨"i", "case"⟩] [] = .ok names ∧
        (s.NamesUnique ↔ NamesApart .standard Catalog.cases [⟨"i", "case"⟩] names) := by
  have hk : Catalog.cases.Keyed := by
    simp [Catalog.cases, Catalog.Keyed, Fields.Keyed, Fields.names, FieldType.AllKeyed, FieldType.Keyed]
  obtain ⟨s, hs, hu⟩ := exists_of_generate .standard Catalog.cases [⟨"i", "case"⟩] NamesUnique
    (b := true) (by decide +kernel)
  exact ⟨hk, s, hs, hu.mpr rfl, namesUnique_iff .standard [⟨"i", "case"⟩] hk hs⟩

/-- The two fields are taken up under two names, and each of them becomes a type of the same name. -/
theorem not_namesUnique_of_visits :
    ∃ s, generate .standard Catalog.visits [⟨"i", "case"⟩] = .ok s ∧ ¬ s.NamesUnique := by
  obtain ⟨s, hs, hu⟩ := exists_of_generate .standard Catalog.visits [⟨"i", "case"⟩] NamesUnique
    (b := false) (by decide +kernel)
  refine ⟨s, hs, ?_⟩
  intro h
  cases hu.mp h

end Schema

end ScopedSearch
