import ScopedSearch.Proofs.Schema.Names
import ScopedSearch.Proofs.Schema.Success

/-!
# References

Fields and arguments name their types as text, and types are put into a schema by a walk of its own that
leaves out what is taken.  All the same every type that is named is defined (`generate_closed`): a nested
field names a type by its capital, and whether it was taken up or passed over, some claim has its name.
-/

namespace ScopedSearch

/-- The types that a field names: its own and those of its arguments. -/
def FieldDef.references (f : FieldDef) : List String := f.type :: f.arguments.map Argument.type

namespace Schema

/-! ### Named types -/

/-- The type that a reference names, without one pair of brackets around it. -/
def bare (type : String) : String :=
  match type.toList with
  | '[' :: rest => if rest.getLast? = some ']' then String.ofList rest.dropLast else type
  | _ => type

@[simp] theorem bare_listOf (type : String) : bare (listOf type) = type := by
  simp [bare, listOf, String.toList_append]

/-- A name with a suffix that does not end in a bracket is bare. -/
theorem bare_aggregationName (type : String) : bare (aggregationName type) = aggregationName type := by
  unfold bare
  split
  · rename_i rest h
    -- the last character is that of the suffix
    have hlast : (aggregationName type).toList.getLast? = some 'n' := by
      simp [aggregationName, String.toList_append]
    rw [h] at hlast
    cases rest with
    | nil => simp at hlast
    | cons c rest =>
      rw [List.getLast?_cons_cons] at hlast
      simp [hlast]
  · rfl

def builtIn : List String := ["String", "Int", "Float", "Boolean"]

def defined (s : Schema) : List String :=
  builtIn ++ s.scalars ++ s.enums.map EnumType.name ++ s.typeNames

/-- Every type that a field or an argument names is defined. -/
def Closed (s : Schema) : Prop :=
  ∀ t ∈ s.types, ∀ f ∈ t.fields, ∀ r ∈ f.references, bare r ∈ s.defined

instance (s : Schema) : Decidable s.Closed := inferInstanceAs (Decidable (∀ _ ∈ _, _))

variable {catalog : Catalog} {config : IndexConfig} {configs : List IndexConfig} {names : List String}
  {own : List Claim} {c : Contribution}

/-! ### Fields whose types are defined -/

/-- The fields name types among some names only. -/
def Refers (names : List String) (fields : List FieldDef) : Prop :=
  ∀ f ∈ fields, ∀ r ∈ f.references, bare r ∈ names

theorem Refers.append {fields more : List FieldDef} (h : Refers names fields)
    (hmore : Refers names more) : Refers names (fields ++ more) :=
  List.forall_mem_append.mpr ⟨h, hmore⟩

theorem Refers.mono {fields : List FieldDef} {known : List String} (h : Refers known fields)
    (hs : known ⊆ names) : Refers names fields := fun f hf r hr => hs (h f hf r hr)

def common : List String :=
  builtIn ++ ["JSON", TypeTables.objectType, accessibilityEnum.name] ++ fixedNames

theorem refers_common : ∀ t ∈ matchedItemType :: (histogramTypes ++ bucketTypes),
    Refers common t.fields := by
  unfold Refers
  decide +kernel

theorem clientTypes_common : ∀ e ∈ TypeTables.standard.clientTypes, bare e.2 = e.2 ∧ e.2 ∈ common := by
  decide +kernel

theorem histograms_common : ∀ e ∈ TypeTables.standard.histograms, bare e.2 ∈ common := by
  decide +kernel

theorem clientType_common {esType client : String}
    (h : TypeTables.standard.clientType? esType = some client) : bare client = client ∧ client ∈ common :=
  clientTypes_common (esType, client) (mem_of_lookup h)

theorem refers_exposedFields {fields : Fields} (hcommon : common ⊆ names)
    (hmaps : ∀ p ∈ fields, TypeTables.standard.Maps p.2)
    (hnested : ∀ sub ∈ Nested.nestedOf fields, Text.capitalize sub.1 ∈ names) :
    Refers names (fields.map (exposedField .standard)) := by
  refine List.forall_mem_map.mpr fun p hp => ?_
  obtain ⟨client, hclient⟩ := Option.isSome_iff_exists.mp (hmaps p hp)
  obtain ⟨hbare, hmem⟩ := clientType_common hclient
  simp only [FieldDef.references, exposedField, FieldDef.plain, List.map_nil, List.mem_singleton,
    forall_eq, exposedName, hclient, Option.getD_some]
  split
  · rename_i hn
    rw [bare_listOf]
    exact hnested (p.1, p.2.subfields) (Nested.mem_nestedOf.mpr ⟨p, hp, hn, rfl⟩)
  · split
    · rw [bare_listOf]
      exact hcommon hmem
    · rw [hbare]
      exact hcommon hmem

theorem refers_histograms (hcommon : common ⊆ names) (defs : List FieldDef) :
    Refers names (defs.filterMap (histogramField? .standard)) := by
  intro g hg
  obtain ⟨f, -, hfg⟩ := List.mem_filterMap.mp hg
  unfold histogramField? at hfg
  split at hfg
  · cases hfg
  · rename_i histogram hh
    split at hfg
    · cases hfg
    · cases hfg
      have hmem := histograms_common (f.type, histogram) (mem_of_lookup hh)
      simpa [FieldDef.references, FieldDef.plain] using hcommon hmem

theorem refers_entryPoint {name : String} (hcommon : common ⊆ names)
    (h : Text.capitalize name ∈ names) : ∀ r ∈ (entryPoint name).references, bare r ∈ names := by
  have hargs : ∀ a ∈ entryArguments, bare a.type ∈ common := by decide +kernel
  refine List.forall_mem_cons.mpr ⟨?_, List.forall_mem_map.mpr fun a ha => hcommon (hargs a ha)⟩
  simpa [entryPoint] using h

theorem refers_aggregationRoot (hcommon : common ⊆ names)
    (h : ∀ config ∈ configs, aggregationName config.type ∈ names) :
    Refers names (aggregationRoot configs).fields := by
  have hargs : ∀ a ∈ aggregationArguments, bare a.type ∈ common := by decide +kernel
  refine List.forall_mem_map.mpr fun config hconfig => ?_
  refine List.forall_mem_cons.mpr ⟨?_, List.forall_mem_map.mpr fun a ha => hcommon (hargs a ha)⟩
  rw [bare_aggregationName]
  exact h config hconfig

theorem refers_mappingType (hcommon : common ⊆ names) : Refers names (mappingType configs).fields := by
  have hlist : bare "[String]" ∈ common := by decide +kernel
  refine List.forall_mem_map.mpr fun config _ => ?_
  simpa [FieldDef.references, FieldDef.plain] using hcommon hlist

theorem refers_queryType {entries : List FieldDef} (hcommon : common ⊆ names)
    (h : Refers names entries) : Refers names (queryType entries).fields := by
  have hroots : Refers common [.plain "_aggregation" "Aggregation", .plain "_mapping" "Mapping"] := by
    unfold Refers
    decide +kernel
  exact h.append (hroots.mono hcommon)

/-! ### Whole schemas -/

/-- Names that include those of the types that some indices and claims bring in. -/
structure Names (configs : List IndexConfig) (own : List Claim) (names : List String) : Prop where
  common : common ⊆ names
  indices : ∀ config ∈ configs, Text.capitalize config.type ∈ names
  aggregations : ∀ config ∈ configs, aggregationName config.type ∈ names
  claims : ∀ k ∈ own, Text.capitalize k.name ∈ names

theorem mem_defined {s : Schema} {t : ObjectType} (h : t ∈ s.types) : t.name ∈ s.defined :=
  List.mem_append_right _ (List.mem_map_of_mem h)

theorem common_subset_defined : common ⊆ (assemble configs c).defined := by
  intro name hname
  simp only [common, fixedNames, defined, typeNames, assemble, matchedItemType, queryType, aggregationRoot,
    mappingType, List.map_append, List.map_cons, List.map_nil, List.mem_append, List.mem_cons] at hname ⊢
  tauto

theorem names_of_assemble
    (htypes : c.types.Perm (configs.map (topType .standard catalog) ++ own.map (claimType .standard)))
    (haggs : c.aggregations = configs.map (topAggregation .standard catalog)) :
    Names configs own (assemble configs c).defined where
  common := common_subset_defined
  indices := by
    intro config hconfig
    have hmem : topType .standard catalog config ∈ c.types :=
      htypes.symm.subset (List.mem_append_left _ (List.mem_map_of_mem hconfig))
    exact mem_defined (t := topType .standard catalog config) (by simp [assemble, hmem])
  aggregations := by
    intro config hconfig
    have hmem : topAggregation .standard catalog config ∈ c.aggregations := by
      rw [haggs]
      exact List.mem_map_of_mem hconfig
    exact mem_defined (t := topAggregation .standard catalog config) (by simp [assemble, hmem])
  claims := by
    intro k hk
    have hmem : claimType .standard k ∈ c.types :=
      htypes.symm.subset (List.mem_append_right _ (List.mem_map_of_mem hk))
    exact mem_defined (t := claimType .standard k) (by simp [assemble, hmem])

namespace Names

theorem of_settled (h : Names configs own names) {index : String} {sub : NestedType}
    (hs : Nested.Settled index own sub) : Text.capitalize sub.1 ∈ names := by
  obtain ⟨k, hk, hname, -⟩ := hs
  rw [← hname]
  exact h.claims k hk

theorem refers_entries (h : Names configs own names) {entries : List FieldDef}
    (hentries : entries.Perm
      (configs.map (fun config => entryPoint config.type) ++ own.map fun k => entryPoint k.name)) :
    Refers names entries := by
  intro f hf
  rcases List.mem_append.mp (hentries.subset hf) with hf | hf
  · obtain ⟨config, hconfig, rfl⟩ := List.mem_map.mp hf
    exact refers_entryPoint h.common (h.indices config hconfig)
  · obtain ⟨k, hk, rfl⟩ := List.mem_map.mp hf
    exact refers_entryPoint h.common (h.claims k hk)

theorem refers_topType (h : Names configs own names) (hown : Claimed catalog configs [] own)
    (htop : TopMapped .standard catalog configs) (hconfig : config ∈ configs) :
    Refers names (topType .standard catalog config).fields := by
  have hmatched : Refers Schema.common [.plain "_matched" "[MatchedItem]"] := by
    unfold Refers
    decide +kernel
  have hexposed := refers_exposedFields h.common (htop config hconfig) fun sub hsub =>
    h.of_settled (hown.top config hconfig sub hsub)
  exact hexposed.append (hmatched.mono h.common)

theorem refers_claimType (h : Names configs own names) (hown : Claimed catalog configs [] own)
    (hmapped : ClaimsMapped .standard own) {k : Claim} (hk : k ∈ own) :
    Refers names (claimType .standard k).fields :=
  refers_exposedFields h.common (hmapped k hk) fun sub hsub => h.of_settled (hown.below k hk sub hsub)

theorem refers_topAggregation (h : Names configs own names) (catalog : Catalog) (config : IndexConfig) :
    Refers names (topAggregation .standard catalog config).fields := by
  have htotal : Refers Schema.common [.plain "_totalCount" "Int"] := by
    unfold Refers
    decide +kernel
  exact (htotal.mono h.common).append (refers_histograms h.common _)

end Names

theorem refers_assemble (h : Names configs own names) (hentries : Refers names c.entries)
    (htypes : ∀ t ∈ c.types, Refers names t.fields)
    (haggs : ∀ t ∈ c.aggregations, Refers names t.fields) :
    ∀ t ∈ (assemble configs c).types, Refers names t.fields := by
  have hfixed : ∀ t ∈ matchedItemType :: (histogramTypes ++ bucketTypes), Refers names t.fields :=
    fun t ht => (refers_common t ht).mono h.common
  obtain ⟨hmatched, hfixed⟩ := List.forall_mem_cons.mp hfixed
  obtain ⟨hhistograms, hbuckets⟩ := List.forall_mem_append.mp hfixed
  simp only [assemble, List.cons_append, List.nil_append, List.forall_mem_cons, List.forall_mem_append,
    List.not_mem_nil, false_implies, implies_true, and_true]
  exact ⟨hmatched, refers_queryType h.common hentries,
    ⟨⟨⟨htypes, refers_aggregationRoot h.common h.aggregations, haggs⟩, hhistograms⟩, hbuckets⟩,
    refers_mappingType h.common⟩

/-- **Every type that a generated schema names is defined.** -/
theorem generate_closed (catalog : Catalog) (configs : List IndexConfig) {s : Schema}
    (h : generate .standard catalog configs = .ok s) : s.Closed := by
  obtain ⟨c, hc, rfl⟩ := contributions_of_generate h
  obtain ⟨own, hafter, htop, hmapped, hentries, htypes, haggs⟩ := contributions_ok hc
  obtain ⟨hown, -⟩ := claimed_of_claimsAfter hafter
  have hnames : Names configs own (assemble configs c).defined := names_of_assemble htypes haggs
  refine refers_assemble hnames (hnames.refers_entries hentries) ?_ ?_
  · intro t ht
    rcases List.mem_append.mp (htypes.subset ht) with ht | ht
    · obtain ⟨config, hconfig, rfl⟩ := List.mem_map.mp ht
      exact hnames.refers_topType hown htop hconfig
    · obtain ⟨k, hk, rfl⟩ := List.mem_map.mp ht
      exact hnames.refers_claimType hown hmapped hk
  · rw [haggs]
    exact List.forall_mem_map.mpr fun config _ => hnames.refers_topAggregation catalog config

theorem generate_closed_of_studies :
    ∃ s, generate .standard Catalog.studies IndexConfig.studies = .ok s ∧ s.Closed := by
  obtain ⟨s, hs⟩ := exists_generate_studies
  exact ⟨s, hs, generate_closed Catalog.studies IndexConfig.studies hs⟩

end Schema

end ScopedSearch
