import ScopedSearch.Proofs.Schema.Claims
import ScopedSearch.Proofs.Schema.Contributions

/-!
# What is exposed

Everything that some indices contribute to a schema, told from their top levels and from the claims
after the last of them: an entry point and a type for every index and for every claim, and the
aggregations of every index (`contributions_ok`).  There is such a contribution exactly when the indices
are walked well and every field at a top level and below a claim has a client type
(`exists_contributions`).  The names of what is contributed, and which of its types have a field twice,
are read off it (`perm_of_contributions`, `fieldsUnique_types`, `fieldsUnique_aggregations`).
-/

namespace ScopedSearch

/-- Whether a field can be exposed: its type has a client type. -/
def TypeTables.Maps (tables : TypeTables) (t : FieldType) : Prop :=
  (tables.clientType? t.esType).isSome = true

instance (tables : TypeTables) (t : FieldType) : Decidable (tables.Maps t) :=
  inferInstanceAs (Decidable (_ = true))

namespace Schema

variable {tables : TypeTables} {catalog : Catalog} {config : IndexConfig} {configs : List IndexConfig}
  {index : String} {fields : Fields} {nested : List NestedType} {claims own : List Claim}
  {defs : List FieldDef} {types : List ObjectType} {c : Contribution} {f : Failure}

/-! ### Fields -/

/-- The type under which a field is exposed that has a client type. -/
def exposedName (tables : TypeTables) (name : String) (t : FieldType) : String :=
  let client := (tables.clientType? t.esType).getD ""
  if t.isNested then listOf (Text.capitalize name) else if t.isArray then listOf client else client

def exposedField (tables : TypeTables) (p : String × FieldType) : FieldDef :=
  .plain p.1 (exposedName tables p.1 p.2)

@[simp] theorem names_exposedFields (tables : TypeTables) (fields : Fields) :
    FieldDef.names (fields.map (exposedField tables)) = Fields.names fields := by
  simp [FieldDef.names, Fields.names, exposedField, FieldDef.plain, Function.comp_def]

theorem fieldTypeName_ok_iff {name type : String} {t : FieldType} :
    fieldTypeName tables index name t = .ok type ↔ tables.Maps t ∧ type = exposedName tables name t := by
  unfold fieldTypeName TypeTables.Maps exposedName
  split
  · rename_i h
    simp [h]
  · rename_i client h
    simp only [h, Option.isSome_some, Option.getD_some, true_and, Except.ok.injEq]
    exact eq_comm

theorem fieldDefs_ok_iff : fieldDefs tables index fields = .ok defs ↔
    (∀ p ∈ fields, tables.Maps p.2) ∧ defs = fields.map (exposedField tables) := by
  induction fields generalizing defs with
  | nil => simp [fieldDefs, eq_comm]
  | cons p fields ih =>
    constructor
    · intro h
      obtain ⟨type, rest, htype, hrest, rfl⟩ := fieldDefs_cons h
      obtain ⟨hp, rfl⟩ := fieldTypeName_ok_iff.mp htype
      obtain ⟨hfields, rfl⟩ := ih.mp hrest
      exact ⟨List.forall_mem_cons.mpr ⟨hp, hfields⟩, rfl⟩
    · rintro ⟨hall, rfl⟩
      obtain ⟨hp, hfields⟩ := List.forall_mem_cons.mp hall
      rw [fieldDefs, fieldTypeName_ok_iff.mpr ⟨hp, rfl⟩, ih.mpr ⟨hfields, rfl⟩]
      rfl

theorem kind_of_fieldDefs (h : fieldDefs tables index fields = .error f) : f.kind = .schema := by
  induction fields with
  | nil => cases h
  | cons p fields ih =>
    rw [fieldDefs] at h
    rcases bind_error_iff.mp h with h | ⟨type, -, h⟩
    · unfold fieldTypeName at h
      split at h
      · cases h
        rfl
      · cases h
    · rcases bind_error_iff.mp h with h | ⟨rest, -, h⟩
      · exact ih h
      · cases h

/-! ### Types -/

def exposedNested (tables : TypeTables) (field : NestedType) : ObjectType :=
  ⟨Text.capitalize field.1, field.2.map (exposedField tables)⟩

theorem nestedTypes_ok_iff : nestedTypes tables index nested = .ok types ↔
    (∀ field ∈ nested, ∀ p ∈ field.2, tables.Maps p.2) ∧ types = nested.map (exposedNested tables) := by
  induction nested generalizing types with
  | nil => simp [nestedTypes, eq_comm]
  | cons field nested ih =>
    constructor
    · intro h
      obtain ⟨defs, rest, hdefs, hrest, rfl⟩ := nestedTypes_cons h
      obtain ⟨hfield, rfl⟩ := fieldDefs_ok_iff.mp hdefs
      obtain ⟨hnested, rfl⟩ := ih.mp hrest
      exact ⟨List.forall_mem_cons.mpr ⟨hfield, hnested⟩, rfl⟩
    · rintro ⟨hall, rfl⟩
      obtain ⟨hfield, hnested⟩ := List.forall_mem_cons.mp hall
      rw [nestedTypes, fieldDefs_ok_iff.mpr ⟨hfield, rfl⟩, ih.mpr ⟨hnested, rfl⟩]
      rfl

theorem kind_of_nestedTypes (h : nestedTypes tables index nested = .error f) : f.kind = .schema := by
  induction nested with
  | nil => cases h
  | cons field nested ih =>
    rw [nestedTypes] at h
    rcases bind_error_iff.mp h with h | ⟨defs, -, h⟩
    · exact kind_of_fieldDefs h
    · rcases bind_error_iff.mp h with h | ⟨rest, -, h⟩
      · exact ih h
      · cases h

def claimType (tables : TypeTables) (c : Claim) : ObjectType := exposedNested tables (c.name, c.fields)

def topType (tables : TypeTables) (catalog : Catalog) (config : IndexConfig) : ObjectType :=
  indexType config ((catalog.top config.index).map (exposedField tables))

def topAggregation (tables : TypeTables) (catalog : Catalog) (config : IndexConfig) : ObjectType :=
  aggregationType tables config ((catalog.top config.index).map (exposedField tables))

/-! ### Contributions -/

def TopMapped (tables : TypeTables) (catalog : Catalog) (configs : List IndexConfig) : Prop :=
  ∀ config ∈ configs, ∀ p ∈ catalog.top config.index, tables.Maps p.2

def ClaimsMapped (tables : TypeTables) (claims : List Claim) : Prop :=
  ∀ c ∈ claims, ∀ p ∈ c.fields, tables.Maps p.2

theorem TopMapped.fieldDefs_top (h : TopMapped tables catalog configs) (hconfig : config ∈ configs) :
    fieldDefs tables config.index (catalog.top config.index) =
      .ok ((catalog.top config.index).map (exposedField tables)) :=
  fieldDefs_ok_iff.mpr ⟨h config hconfig, rfl⟩

/-- What comes in front moves behind a part of what follows. -/
theorem perm_append_past {α : Type} (xs : List α) {ys zs ws : List α} (h : ys.Perm (zs ++ ws)) :
    (xs ++ ys).Perm (zs ++ (xs ++ ws)) := by
  refine (h.append_left xs).trans ?_
  rw [← List.append_assoc, ← List.append_assoc]
  exact List.perm_append_comm.append_right ws

/-- **What some indices contribute.** -/
theorem contributions_ok (h : contributions tables catalog configs claims = .ok c) :
    ∃ own, claimsAfter catalog configs claims = .ok (claims ++ own) ∧
      TopMapped tables catalog configs ∧ ClaimsMapped tables own ∧
      c.entries.Perm
        (configs.map (fun config => entryPoint config.type) ++ own.map fun k => entryPoint k.name) ∧
      c.types.Perm (configs.map (topType tables catalog) ++ own.map (claimType tables)) ∧
      c.aggregations = configs.map (topAggregation tables catalog) := by
  induction configs generalizing claims c with
  | nil =>
    cases h
    exact ⟨[], by simp [claimsAfter], by simp [TopMapped], by simp [ClaimsMapped], .nil, .nil, rfl⟩
  | cons config configs ih =>
    obtain ⟨one, mid, others, hone, hothers, rfl⟩ := contributions_cons h
    obtain ⟨fields, nested, defs, types, hfields, hnested, hdefs, htypes, rfl⟩ := contribution_ok hone
    obtain ⟨hknown, rfl⟩ := Catalog.fields_ok_iff.mp hfields
    obtain ⟨htop, rfl⟩ := fieldDefs_ok_iff.mp hdefs
    obtain ⟨hbelow, rfl⟩ := nestedTypes_ok_iff.mp htypes
    obtain ⟨own, hown, htops, hmapped, hentries, htypes, haggs⟩ := ih hothers
    obtain rfl := Nested.claims_of_discover hnested
    refine ⟨nested.map (Nested.claimBy config.index) ++ own, ?_, ?_, ?_, ?_, ?_, ?_⟩
    · rw [claimsAfter, hfields]
      simp only [bind, Except.bind, hnested]
      rw [hown, List.append_assoc]
    · exact List.forall_mem_cons.mpr ⟨htop, htops⟩
    · refine List.forall_mem_append.mpr ⟨?_, hmapped⟩
      intro k hk
      obtain ⟨field, hfield, rfl⟩ := List.mem_map.mp hk
      exact hbelow field hfield
    · have hmove := perm_append_past (nested.map fun field => entryPoint field.1) hentries
      simp only [entryPoints, List.map_cons, List.map_append, List.map_map, List.cons_append]
      exact hmove.cons (entryPoint config.type)
    · have hmove := perm_append_past (nested.map (exposedNested tables)) htypes
      simp only [List.map_cons, List.map_append, List.map_map, List.cons_append]
      exact hmove.cons (topType tables catalog config)
    · rw [haggs]
      rfl

/-- **Indices that are walked well contribute when all that is met has a client type.** -/
theorem exists_contributions (h : claimsAfter catalog configs claims = .ok (claims ++ own))
    (htop : TopMapped tables catalog configs) (hown : ClaimsMapped tables own) :
    ∃ c, contributions tables catalog configs claims = .ok c := by
  induction configs generalizing claims own with
  | nil => exact ⟨{}, rfl⟩
  | cons config configs ih =>
    obtain ⟨found, more, hknown, hfound, hrest, rfl⟩ := claimsAfter_cons_append h
    obtain ⟨hconfig, hconfigs⟩ := List.forall_mem_cons.mp htop
    obtain ⟨hfoundm, hmorem⟩ := List.forall_mem_append.mp hown
    have hnested : ∀ field ∈ found, ∀ p ∈ field.2, tables.Maps p.2 := by
      intro field hfield
      exact hfoundm _ (List.mem_map_of_mem hfield)
    obtain ⟨others, hothers⟩ := ih hrest hconfigs hmorem
    have hone : contribution tables catalog config claims = .ok
        (⟨entryPoints config found, topType tables catalog config :: found.map (exposedNested tables),
          [topAggregation tables catalog config]⟩, claims ++ found.map (Nested.claimBy config.index)) := by
      rw [contribution, Catalog.fields_ok_iff.mpr ⟨hknown, rfl⟩]
      simp only [bind, Except.bind, hfound, fieldDefs_ok_iff.mpr ⟨hconfig, rfl⟩,
        nestedTypes_ok_iff.mpr ⟨hnested, rfl⟩]
      rfl
    exact ⟨_, by rw [contributions, hone]; simp only [bind, Except.bind, hothers]; rfl⟩

theorem kind_of_contributions (hknown : ∀ config ∈ configs, catalog.Knows config.index)
    (h : contributions tables catalog configs claims = .error f) : f.kind = .schema := by
  induction configs generalizing claims with
  | nil => cases h
  | cons config configs ih =>
    obtain ⟨hknows, hknown⟩ := List.forall_mem_cons.mp hknown
    rw [contributions] at h
    rcases bind_error_iff.mp h with h | ⟨one, -, h⟩
    · rw [contribution, Catalog.fields_ok_iff.mpr ⟨hknows, rfl⟩] at h
      rcases bind_error_iff.mp h with h | ⟨fields, -, h⟩
      · cases h
      rcases bind_error_iff.mp h with h | ⟨found, -, h⟩
      · exact Nested.kind_of_discover h
      rcases bind_error_iff.mp h with h | ⟨defs, -, h⟩
      · exact kind_of_fieldDefs h
      rcases bind_error_iff.mp h with h | ⟨types, -, h⟩
      · exact kind_of_nestedTypes h
      · cases h
    · rcases bind_error_iff.mp h with h | ⟨others, -, h⟩
      · exact ih hknown h
      · cases h

/-! ### Names -/

theorem nestedNames_of_claimsAfter (h : claimsAfter catalog configs claims = .ok (claims ++ own)) :
    nestedNames catalog configs claims = .ok (own.map Claim.name) := by
  induction configs generalizing claims own with
  | nil =>
    rw [claimsAfter, Except.ok.injEq, List.self_eq_append_right] at h
    simp [nestedNames, h]
  | cons config configs ih =>
    obtain ⟨found, more, hknown, hfound, hrest, rfl⟩ := claimsAfter_cons_append h
    rw [nestedNames, Catalog.fields_ok_iff.mpr ⟨hknown, rfl⟩]
    simp [bind, Except.bind, pure, Except.pure, hfound, ih hrest, Nested.namesOf, Nested.claimBy,
      Function.comp_def]

/-- **Every index and every nested field that is taken up has one entry point and one type.** -/
theorem perm_of_contributions (h : contributions tables catalog configs claims = .ok c) :
    ∃ names, nestedNames catalog configs claims = .ok names ∧
      (FieldDef.names c.entries).Perm (configs.map IndexConfig.type ++ names) ∧
      (c.types.map ObjectType.name).Perm
        ((configs.map IndexConfig.type ++ names).map Text.capitalize) ∧
      c.aggregations.map ObjectType.name = configs.map fun config => aggregationName config.type := by
  obtain ⟨own, hafter, -, -, hentries, htypes, haggs⟩ := contributions_ok h
  refine ⟨own.map Claim.name, nestedNames_of_claimsAfter hafter, ?_, ?_, ?_⟩
  · simpa [FieldDef.names, Function.comp_def, entryPoint] using hentries.map FieldDef.name
  · simpa [Function.comp_def, topType, indexType, claimType, exposedNested] using
      htypes.map ObjectType.name
  · simp [haggs, topAggregation, aggregationType, Function.comp_def]

/-- Of the types of keyed indices, none has a field twice exactly when no index has a field
`_matched`. -/
theorem fieldsUnique_types (hc : catalog.Keyed)
    (h : contributions tables catalog configs [] = .ok c) :
    (∀ t ∈ c.types, t.FieldsUnique) ↔ ∀ config ∈ configs, ∀ fields,
      catalog.fields config.index = .ok fields → "_matched" ∉ Fields.names fields := by
  obtain ⟨own, hafter, htop, -, -, htypes, -⟩ := contributions_ok h
  obtain ⟨hown, -⟩ := claimed_of_claimsAfter hafter
  have hclaims : ∀ k ∈ own, (claimType tables k).FieldsUnique := by
    intro k hk
    rw [ObjectType.FieldsUnique, claimType, exposedNested, names_exposedFields]
    exact (hown.keyed hc hk).1
  have hall : (∀ t ∈ c.types, t.FieldsUnique) ↔
      ∀ config ∈ configs, (topType tables catalog config).FieldsUnique := by
    simp only [htypes.mem_iff, List.forall_mem_append, List.forall_mem_map]
    exact and_iff_left hclaims
  rw [hall]
  refine forall₂_congr fun config hconfig => ?_
  simp only [Catalog.fields_ok_iff, hown.known config hconfig, true_and, forall_eq]
  exact fieldsUnique_indexType (hc.top config.index) (htop.fieldDefs_top hconfig)

/-- Of the aggregations of keyed indices, none has a field twice exactly when no index has a field
`_totalCount` with a histogram. -/
theorem fieldsUnique_aggregations (hc : catalog.Keyed)
    (h : contributions tables catalog configs [] = .ok c) :
    (∀ t ∈ c.aggregations, t.FieldsUnique) ↔ ∀ config ∈ configs, ∀ fields,
      catalog.fields config.index = .ok fields →
        "_totalCount" ∉ Fields.names (fields.filter (hasHistogram tables config.index)) := by
  obtain ⟨own, hafter, htop, -, -, -, haggs⟩ := contributions_ok h
  obtain ⟨hown, -⟩ := claimed_of_claimsAfter hafter
  rw [haggs, List.forall_mem_map]
  refine forall₂_congr fun config hconfig => ?_
  simp only [Catalog.fields_ok_iff, hown.known config hconfig, true_and, forall_eq]
  exact fieldsUnique_aggregationType (hc.top config.index) (htop.fieldDefs_top hconfig)

end Schema

end ScopedSearch
