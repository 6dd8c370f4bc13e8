import Mathlib.Data.Multiset.MapFold
import ScopedSearch.Proofs.Schema.Success

/-!
# The order of the indices

As long as its indices are coherent, a keyed catalog has the same schema whatever their order, or none
in any order (`generate_perm`): the types are the same, up to their order and that of their fields.  An
index that gives two nested fields of one name different fields may agree with another index in one order
and not in the other (`not_generate_perm_of_reused`).
-/

namespace ScopedSearch

/-- Object types of one name with the same fields, perhaps in another order. -/
def ObjectType.Same (t u : ObjectType) : Prop := t.name = u.name ∧ t.fields.Perm u.fields

theorem ObjectType.Same.refl (t : ObjectType) : t.Same t := ⟨rfl, .refl _⟩

namespace Schema

/-! ### The same types -/

/-- The same object types, up to their order and that of the fields inside a type. -/
def SameTypes (ts us : List ObjectType) : Prop :=
  Multiset.Rel ObjectType.Same (ts : Multiset ObjectType) (us : Multiset ObjectType)

namespace SameTypes

variable {ts us vs ws : List ObjectType}

theorem of_perm (h : ts.Perm us) : SameTypes ts us := by
  rw [SameTypes, Multiset.coe_eq_coe.mpr h]
  exact Multiset.rel_refl_of_refl_on fun t _ => .refl t

theorem refl (ts : List ObjectType) : SameTypes ts ts := of_perm (.refl ts)

theorem append (h : SameTypes ts us) (h' : SameTypes vs ws) : SameTypes (ts ++ vs) (us ++ ws) := by
  rw [SameTypes, ← Multiset.coe_add, ← Multiset.coe_add]
  exact Multiset.Rel.add h h'

theorem cons {t u : ObjectType} (ht : t.Same u) (h : SameTypes ts us) :
    SameTypes (t :: ts) (u :: us) := by
  rw [SameTypes, ← Multiset.cons_coe, ← Multiset.cons_coe]
  exact .cons ht h

theorem perm (h : SameTypes ts us) (hv : vs.Perm ts) (hw : ws.Perm us) : SameTypes vs ws := by
  rw [SameTypes, Multiset.coe_eq_coe.mpr hv, Multiset.coe_eq_coe.mpr hw]
  exact h

end SameTypes

variable {tables : TypeTables} {catalog : Catalog} {configs configs' : List IndexConfig}
  {own own' : List Claim}

/-! ### Conditions -/

theorem Mapped.subset (h : Mapped tables catalog configs) (hs : configs' ⊆ configs) :
    Mapped tables catalog configs' := fun config hc => h config (hs hc)

theorem Compatible.subset (h : Compatible catalog configs) (hs : configs' ⊆ configs) :
    Compatible catalog configs' := fun c hc d hd => h c (hs hc) d (hs hd)

theorem Coherent.subset (h : Coherent catalog configs) (hs : configs' ⊆ configs) :
    Coherent catalog configs' := fun c hc => h c (hs hc)

/-- Whether coherent indices contribute does not depend on their order. -/
theorem exists_contributions_of_perm (hk : catalog.Keyed) (hcoh : Coherent catalog configs)
    (hp : configs.Perm configs') (h : ∃ c, contributions tables catalog configs [] = .ok c) :
    ∃ c, contributions tables catalog configs' [] = .ok c := by
  obtain ⟨c, hc⟩ := h
  obtain ⟨own, hown, -⟩ := claimed_of_contributions hc
  have hs : configs' ⊆ configs := hp.symm.subset
  have hknown : ∀ config ∈ configs', catalog.Knows config.index :=
    fun config hconfig => hown.known config (hs hconfig)
  exact exists_contributions_of_mapped hknown ((mapped_of_contributions hk hcoh hc).subset hs)
    ((compatible_of_contributions hk hcoh hc).subset hs)

/-! ### Claims -/

theorem names_subset_of_claimed (hk : catalog.Keyed) (hcoh : Coherent catalog configs')
    (h : Claimed catalog configs [] own) (h' : Claimed catalog configs' [] own')
    (hs : configs ⊆ configs') : own.map Claim.name ⊆ own'.map Claim.name := by
  intro name hname
  obtain ⟨c, hc, rfl⟩ := List.mem_map.mp hname
  obtain ⟨config, hconfig, -, hmem⟩ := h.owned c hc
  obtain ⟨d, hd, hdname, -⟩ := h'.exists_of_nested hk hcoh (hs hconfig) _ hmem
  exact List.mem_map.mpr ⟨d, hd, hdname⟩

theorem exposedFields_perm {ps qs : Fields} (hp : Fields.Keyed ps) (hq : Fields.Keyed qs)
    (h : FieldType.eqvFields ps qs = true) :
    (ps.map (exposedField tables)).Perm (qs.map (exposedField tables)) := by
  have hnodup : ∀ rs : Fields, Fields.Keyed rs → (rs.map (exposedField tables)).Nodup := by
    intro rs hrs
    refine List.Nodup.of_map FieldDef.name ?_
    rw [List.map_map]
    exact hrs.1
  have hsub : ∀ rs us : Fields, FieldType.eqvFields rs us = true →
      rs.map (exposedField tables) ⊆ us.map (exposedField tables) := by
    intro rs us heq d hd
    obtain ⟨r, hr, rfl⟩ := List.mem_map.mp hd
    obtain ⟨u, hu, hname, hru⟩ := FieldType.exists_of_eqvFields heq hr
    obtain ⟨htype, harray, -, -⟩ := FieldType.eqv_iff.mp hru
    refine List.mem_map.mpr ⟨u, hu, ?_⟩
    simp [exposedField, exposedName, FieldType.isNested, hname, htype, harray]
  refine (List.perm_ext_iff_of_nodup (hnodup ps hp) (hnodup qs hq)).mpr fun d => ?_
  constructor
  · exact fun hd => hsub ps qs h hd
  · exact fun hd => hsub qs ps (FieldType.eqvFields_symm hp hq h) hd

theorem same_claimType (hk : catalog.Keyed) (hcoh : Coherent catalog configs)
    (hcom : Compatible catalog configs) (h : Claimed catalog configs [] own)
    (h' : Claimed catalog configs' [] own') (hs : configs' ⊆ configs) {c d : Claim} (hc : c ∈ own)
    (hd : d ∈ own') (hname : c.name = d.name) :
    (claimType tables c).Same (claimType tables d) := by
  obtain ⟨config, hconfig, -, hcmem⟩ := h.owned c hc
  obtain ⟨config', hconfig', -, hdmem⟩ := h'.owned d hd
  have hsame := agree_of_coherent hcoh hcom hconfig (hs hconfig') _ hcmem _ hdmem hname
  refine ⟨?_, exposedFields_perm (h.keyed hk hc) (h'.keyed hk hd) hsame⟩
  simp [claimType, exposedNested, hname]

theorem sameTypes_claims (tables : TypeTables) (hk : catalog.Keyed) (hcoh : Coherent catalog configs)
    (hcom : Compatible catalog configs) (hp : configs.Perm configs')
    (h : claimsAfter catalog configs [] = .ok own) (h' : claimsAfter catalog configs' [] = .ok own') :
    (own.map Claim.name).Perm (own'.map Claim.name) ∧
      SameTypes (own.map (claimType tables)) (own'.map (claimType tables)) := by
  obtain ⟨hown, hnodup⟩ := claimed_of_claimsAfter h
  obtain ⟨hown', hnodup'⟩ := claimed_of_claimsAfter h'
  have hcoh' : Coherent catalog configs' := hcoh.subset hp.symm.subset
  have hnames : (own.map Claim.name).Perm (own'.map Claim.name) :=
    (List.perm_ext_iff_of_nodup hnodup hnodup').mpr fun _ =>
      ⟨fun hn => names_subset_of_claimed hk hcoh' hown hown' hp.subset hn,
        fun hn => names_subset_of_claimed hk hcoh hown' hown hp.symm.subset hn⟩
  -- claims are matched by their names
  have hrel : Multiset.Rel (fun c d : Claim => c.name = d.name) own own' := by
    rw [← Multiset.rel_map (p := (· = ·)), Multiset.rel_eq, Multiset.map_coe, Multiset.map_coe]
    exact Multiset.coe_eq_coe.mpr hnames
  refine ⟨hnames, ?_⟩
  rw [SameTypes, ← Multiset.map_coe, ← Multiset.map_coe, Multiset.rel_map]
  exact hrel.mono fun c hc d hd hname =>
    same_claimType hk hcoh hcom hown hown' hp.symm.subset hc hd hname

/-! ### Schemas -/

/-- The entry points and aggregations of the indices are what is put into these types in order. -/
theorem same_queryType {entries entries' : List FieldDef} (h : entries.Perm entries') :
    (queryType entries).Same (queryType entries') := ⟨rfl, h.append_right _⟩

theorem same_aggregationRoot (hp : configs.Perm configs') :
    (aggregationRoot configs).Same (aggregationRoot configs') := ⟨rfl, hp.map _⟩

theorem same_mappingType (hp : configs.Perm configs') :
    (mappingType configs).Same (mappingType configs') := ⟨rfl, hp.map _⟩

theorem sameTypes_assemble {c c' : Contribution} (hp : configs.Perm configs')
    (hentries : c.entries.Perm c'.entries) (htypes : SameTypes c.types c'.types)
    (haggs : c.aggregations.Perm c'.aggregations) :
    SameTypes (assemble configs c).types (assemble configs' c').types := by
  have hroots : SameTypes (aggregationRoot configs :: c.aggregations)
      (aggregationRoot configs' :: c'.aggregations) :=
    .cons (same_aggregationRoot hp) (.of_perm haggs)
  have hfirst : SameTypes [matchedItemType, queryType c.entries]
      [matchedItemType, queryType c'.entries] :=
    .cons (.refl _) (.cons (same_queryType hentries) (.refl []))
  exact ((((hfirst.append htypes).append hroots).append (.refl _)).append (.refl _)).append
    (.cons (same_mappingType hp) (.refl []))

theorem sameTypes_of_contributions (hk : catalog.Keyed) (hcoh : Coherent catalog configs)
    (hp : configs.Perm configs') {c c' : Contribution}
    (h : contributions tables catalog configs [] = .ok c)
    (h' : contributions tables catalog configs' [] = .ok c') :
    SameTypes (assemble configs c).types (assemble configs' c').types := by
  have hcom := compatible_of_contributions hk hcoh h
  obtain ⟨own, hown, -, -, hentries, htypes, haggs⟩ := contributions_ok h
  obtain ⟨own', hown', -, -, hentries', htypes', haggs'⟩ := contributions_ok h'
  obtain ⟨hnames, hclaims⟩ := sameTypes_claims tables hk hcoh hcom hp hown hown'
  refine sameTypes_assemble hp ?_ ?_ ?_
  · have hpoints : (own.map fun k => entryPoint k.name).Perm (own'.map fun k => entryPoint k.name) := by
      simpa [Function.comp_def] using hnames.map entryPoint
    exact hentries.trans (((hp.map _).append hpoints).trans hentries'.symm)
  · exact ((SameTypes.of_perm (hp.map _)).append hclaims).perm htypes htypes'
  · rw [haggs, haggs']
    exact hp.map _

/-- **The order of coherent indices does not matter**: a schema is generated in either order or in
none, and both have the same types. -/
theorem generate_perm (tables : TypeTables) (hk : catalog.Keyed) (hcoh : Coherent catalog configs)
    (hp : configs.Perm configs') :
    ((∃ s, generate tables catalog configs = .ok s) ↔
      ∃ s, generate tables catalog configs' = .ok s) ∧
    ∀ s s', generate tables catalog configs = .ok s → generate tables catalog configs' = .ok s' →
      SameTypes s.types s'.types := by
  have hcoh' : Coherent catalog configs' := hcoh.subset hp.symm.subset
  constructor
  · rw [generate_ok_iff, generate_ok_iff]
    refine and_congr_right fun _ => ⟨?_, ?_⟩
    · exact exists_contributions_of_perm hk hcoh hp
    · exact exists_contributions_of_perm hk hcoh' hp.symm
  · intro s s' hs hs'
    obtain ⟨c, hc, rfl⟩ := contributions_of_generate hs
    obtain ⟨c', hc', rfl⟩ := contributions_of_generate hs'
    exact sameTypes_of_contributions hk hcoh hp hc hc'

end Schema

/-- An index with two nested fields of one name that have different fields, and an index that has the
first of them only. -/
def Catalog.reused : Catalog :=
  let a (name : String) := ("a", FieldType.mk "nested" false (some [(name, .mk "keyword" false none)]))
  ⟨[("i", [a "x", ("b", .mk "nested" false (some [a "y"]))]), ("j", [a "x"])]⟩

namespace Schema

theorem generate_perm_of_studies :
    Catalog.studies.Keyed ∧ Coherent Catalog.studies IndexConfig.studies ∧
    IndexConfig.studies.Perm IndexConfig.studies.reverse ∧
    (∃ s, generate .standard Catalog.studies IndexConfig.studies = .ok s) ∧
    ((∃ s, generate .standard Catalog.studies IndexConfig.studies = .ok s) ↔
      ∃ s, generate .standard Catalog.studies IndexConfig.studies.reverse = .ok s) ∧
    ∀ s s', generate .standard Catalog.studies IndexConfig.studies = .ok s →
      generate .standard Catalog.studies IndexConfig.studies.reverse = .ok s' →
      SameTypes s.types s'.types := by
  have hcoh : Coherent Catalog.studies IndexConfig.studies := by decide +kernel
  have hp : IndexConfig.studies.Perm IndexConfig.studies.reverse := (List.reverse_perm _).symm
  exact ⟨Catalog.keyed_studies, hcoh, hp, exists_generate_studies,
    generate_perm .standard Catalog.keyed_studies hcoh hp⟩

/-- When the index with both fields is walked first, the second field passes as one of its own and the
other index agrees with the first.  When it is walked last, its second field is compared with the claim
of the other index. -/
theorem not_generate_perm_of_reused :
    [IndexConfig.mk "i" "case", ⟨"j", "file"⟩].Perm [⟨"j", "file"⟩, ⟨"i", "case"⟩] ∧
    (∃ s, generate .standard Catalog.reused [⟨"i", "case"⟩, ⟨"j", "file"⟩] = .ok s) ∧
    generate .standard Catalog.reused [⟨"j", "file"⟩, ⟨"i", "case"⟩] =
      .error (.nestedConflict "a" "i" "j") :=
  ⟨.swap .., isOk_iff.mp (by decide +kernel), by decide +kernel⟩

end Schema

end ScopedSearch
