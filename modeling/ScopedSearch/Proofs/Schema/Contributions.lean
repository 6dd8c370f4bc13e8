import Mathlib.Data.List.Perm.Basic
import ScopedSearch.Schema.Generate
import ScopedSearch.Proofs.Schema.Walk

/-!
# What indices contribute to a schema

What one index contributes, the names that it takes up, and which of its types can have a field twice:
that of the index and that of its aggregations, by a field of the index that has the name of an added
one.
-/

namespace ScopedSearch

def FieldDef.names (defs : List FieldDef) : List String := defs.map FieldDef.name

/-- No two fields of a type have the same name. -/
def ObjectType.FieldsUnique (t : ObjectType) : Prop := (FieldDef.names t.fields).Nodup

instance (t : ObjectType) : Decidable t.FieldsUnique :=
  inferInstanceAs (Decidable (List.Nodup (FieldDef.names t.fields)))

namespace Schema

variable {tables : TypeTables} {catalog : Catalog} {config : IndexConfig} {configs : List IndexConfig}
  {index : String} {fields : Fields} {nested : List NestedType} {claims after : List Claim}
  {defs : List FieldDef} {types : List ObjectType}

/-! ### Field definitions -/

theorem fieldDefs_cons {p : String × FieldType} (h : fieldDefs tables index (p :: fields) = .ok defs) :
    ∃ type rest, fieldTypeName tables index p.1 p.2 = .ok type ∧
      fieldDefs tables index fields = .ok rest ∧ defs = .plain p.1 type :: rest := by
  obtain ⟨name, t⟩ := p
  rw [fieldDefs] at h
  obtain ⟨type, htype, h⟩ := bind_ok_iff.mp h
  obtain ⟨rest, hrest, h⟩ := bind_ok_iff.mp h
  exact ⟨type, rest, htype, hrest, (pure_ok_iff.mp h).symm⟩

theorem names_of_fieldDefs (h : fieldDefs tables index fields = .ok defs) :
    FieldDef.names defs = Fields.names fields := by
  induction fields generalizing defs with
  | nil =>
    cases h
    rfl
  | cons p fields ih =>
    obtain ⟨type, rest, -, hrest, rfl⟩ := fieldDefs_cons h
    have := ih hrest
    simp_all [FieldDef.names, Fields.names, FieldDef.plain]

def hasHistogram (tables : TypeTables) (index : String) (p : String × FieldType) : Bool :=
  match fieldTypeName tables index p.1 p.2 with
  | .ok type => (histogramField? tables (.plain p.1 type)).isSome
  | .error _ => false

theorem name_of_histogramField? {f g : FieldDef} (h : histogramField? tables f = some g) :
    g.name = f.name := by
  unfold histogramField? at h
  split at h
  · cases h
  · split at h
    · cases h
    · cases h
      rfl

theorem names_of_histograms (h : fieldDefs tables index fields = .ok defs) :
    FieldDef.names (defs.filterMap (histogramField? tables)) =
      Fields.names (fields.filter (hasHistogram tables index)) := by
  induction fields generalizing defs with
  | nil =>
    cases h
    rfl
  | cons p fields ih =>
    obtain ⟨type, rest, htype, hrest, rfl⟩ := fieldDefs_cons h
    have ih := ih hrest
    cases hg : histogramField? tables (.plain p.1 type) with
    | none =>
      have hp : hasHistogram tables index p = false := by simp [hasHistogram, htype, hg]
      rw [List.filterMap_cons_none hg, List.filter_cons_of_neg (by simp [hp]), ih]
    | some g =>
      have hp : hasHistogram tables index p = true := by simp [hasHistogram, htype, hg]
      rw [List.filterMap_cons_some hg, List.filter_cons_of_pos hp]
      simp only [FieldDef.names, Fields.names, List.map_cons] at ih ⊢
      rw [ih, name_of_histogramField? hg]
      rfl

/-! ### Types of nested fields -/

theorem nestedTypes_cons {field : NestedType}
    (h : nestedTypes tables index (field :: nested) = .ok types) :
    ∃ defs rest, fieldDefs tables index field.2 = .ok defs ∧
      nestedTypes tables index nested = .ok rest ∧
      types = ⟨Text.capitalize field.1, defs⟩ :: rest := by
  obtain ⟨name, fields⟩ := field
  rw [nestedTypes] at h
  obtain ⟨defs, hdefs, h⟩ := bind_ok_iff.mp h
  obtain ⟨rest, hrest, h⟩ := bind_ok_iff.mp h
  exact ⟨defs, rest, hdefs, hrest, (pure_ok_iff.mp h).symm⟩

/-! ### One index -/

theorem contribution_ok {one : Contribution}
    (h : contribution tables catalog config claims = .ok (one, after)) :
    ∃ fields nested defs types, catalog.fields config.index = .ok fields ∧
      Nested.discover config.index fields claims = .ok (nested, after) ∧
      fieldDefs tables config.index fields = .ok defs ∧
      nestedTypes tables config.index nested = .ok types ∧
      one = ⟨entryPoints config nested, indexType config defs :: types,
        [aggregationType tables config defs]⟩ := by
  obtain ⟨fields, hfields, h⟩ := bind_ok_iff.mp h
  obtain ⟨⟨nested, mid⟩, hnested, h⟩ := bind_ok_iff.mp h
  obtain ⟨defs, hdefs, h⟩ := bind_ok_iff.mp h
  obtain ⟨types, htypes, h⟩ := bind_ok_iff.mp h
  cases h
  exact ⟨fields, nested, defs, types, hfields, hnested, hdefs, htypes, rfl⟩

theorem fieldsUnique_indexType (hk : Fields.Keyed fields)
    (h : fieldDefs tables index fields = .ok defs) :
    (indexType config defs).FieldsUnique ↔ "_matched" ∉ Fields.names fields := by
  have hnames : FieldDef.names (indexType config defs).fields = Fields.names fields ++ ["_matched"] := by
    rw [← names_of_fieldDefs h]
    simp [FieldDef.names, indexType, FieldDef.plain]
  rw [ObjectType.FieldsUnique, hnames, List.nodup_append]
  constructor
  · rintro ⟨-, -, hne⟩ hmem
    exact hne _ hmem _ (List.mem_singleton_self _) rfl
  · intro hmem
    refine ⟨hk.1, List.nodup_singleton _, ?_⟩
    rintro name hname _ hlast rfl
    exact hmem (List.mem_singleton.mp hlast ▸ hname)

/-- A keyed index has a field of its aggregations twice exactly when it has a field `_totalCount` with
a histogram. -/
theorem fieldsUnique_aggregationType (hk : Fields.Keyed fields)
    (h : fieldDefs tables index fields = .ok defs) :
    (aggregationType tables config defs).FieldsUnique ↔
      "_totalCount" ∉ Fields.names (fields.filter (hasHistogram tables index)) := by
  have hnames : FieldDef.names (aggregationType tables config defs).fields =
      "_totalCount" :: Fields.names (fields.filter (hasHistogram tables index)) := by
    rw [← names_of_histograms h]
    rfl
  have hkept : (Fields.names (fields.filter (hasHistogram tables index))).Nodup :=
    hk.1.sublist (List.filter_sublist.map Prod.fst)
  rw [ObjectType.FieldsUnique, hnames, List.nodup_cons]
  constructor
  · intro hu
    exact hu.1
  · intro hmem
    exact ⟨hmem, hkept⟩

/-! ### All indices -/

def nestedNames (catalog : Catalog) : List IndexConfig → List Claim → Except Failure (List String)
  | [], _ => .ok []
  | config :: rest, claims => do
    let fields ← catalog.fields config.index
    let (nested, claims) ← Nested.discover config.index fields claims
    return Nested.namesOf nested ++ (← nestedNames catalog rest claims)

theorem nestedNames_cons {names : List String}
    (h : nestedNames catalog (config :: configs) claims = .ok names) :
    ∃ fields nested mid more, catalog.fields config.index = .ok fields ∧
      Nested.discover config.index fields claims = .ok (nested, mid) ∧
      nestedNames catalog configs mid = .ok more ∧ names = Nested.namesOf nested ++ more := by
  rw [nestedNames] at h
  obtain ⟨fields, hfields, h⟩ := bind_ok_iff.mp h
  obtain ⟨⟨nested, mid⟩, hnested, h⟩ := bind_ok_iff.mp h
  obtain ⟨more, hmore, h⟩ := bind_ok_iff.mp h
  exact ⟨fields, nested, mid, more, hfields, hnested, hmore, (pure_ok_iff.mp h).symm⟩

/-- **No nested field is taken up under a name that is taken**, by its own index or by another. -/
theorem nodup_of_nestedNames {names : List String} (hc : (Nested.taken claims).Nodup)
    (h : nestedNames catalog configs claims = .ok names) : (Nested.taken claims ++ names).Nodup := by
  induction configs generalizing claims names with
  | nil =>
    cases h
    simpa using hc
  | cons config configs ih =>
    obtain ⟨fields, nested, mid, more, -, hnested, hmore, rfl⟩ := nestedNames_cons h
    rw [← List.append_assoc, ← Nested.taken_of_discover hnested]
    exact ih (Nested.nodup_of_discover hc hnested) hmore

theorem contributions_cons {c : Contribution}
    (h : contributions tables catalog (config :: configs) claims = .ok c) :
    ∃ one mid others, contribution tables catalog config claims = .ok (one, mid) ∧
      contributions tables catalog configs mid = .ok others ∧
      c = ⟨one.entries ++ others.entries, one.types ++ others.types,
        one.aggregations ++ others.aggregations⟩ := by
  rw [contributions] at h
  obtain ⟨⟨one, mid⟩, hone, h⟩ := bind_ok_iff.mp h
  obtain ⟨others, hothers, h⟩ := bind_ok_iff.mp h
  exact ⟨one, mid, others, hone, hothers, (pure_ok_iff.mp h).symm⟩

end Schema

end ScopedSearch
