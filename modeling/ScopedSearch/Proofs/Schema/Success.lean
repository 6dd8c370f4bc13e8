import ScopedSearch.Proofs.Schema.Exposure

/-!
# When a schema is generated

A schema of known indices is generated whenever every field within reach has a client type and the
indices are compatible, and then only, as long as each of them is coherent; all that can go wrong is of
the schema (`generate_outcome`).  Of two nested fields of one name in one index, only the first that is
met is looked at, so a field below the other one is never seen (`not_outcome_of_hidden`).
-/

namespace ScopedSearch

theorem TypeTables.firstGap_standard : TypeTables.standard.firstGap = none := by decide +kernel

namespace Schema

variable {tables : TypeTables} {catalog : Catalog} {configs : List IndexConfig} {own : List Claim}
  {c : Contribution}

/-- Every field within reach of some indices has a client type. -/
def Mapped (tables : TypeTables) (catalog : Catalog) (configs : List IndexConfig) : Prop :=
  ∀ config ∈ configs, ∀ p ∈ Fields.reached (catalog.top config.index), tables.Maps p.2

instance (tables : TypeTables) (catalog : Catalog) (configs : List IndexConfig) :
    Decidable (Mapped tables catalog configs) :=
  inferInstanceAs (Decidable (∀ _ ∈ _, _))

/-! ### What is enough -/

theorem Mapped.top (h : Mapped tables catalog configs) : TopMapped tables catalog configs := by
  intro config hconfig p hp
  exact h config hconfig p (Fields.mem_reached_of_mem hp)

theorem Mapped.claims (h : Mapped tables catalog configs) (hown : Claimed catalog configs [] own) :
    ClaimsMapped tables own := by
  intro c hc p hp
  obtain ⟨config, hconfig, -, hmem⟩ := hown.owned c hc
  exact h config hconfig p (Nested.mem_reached_of_within hmem hp)

theorem exists_contributions_of_mapped (hknown : ∀ config ∈ configs, catalog.Knows config.index)
    (hm : Mapped tables catalog configs) (hcom : Compatible catalog configs) :
    ∃ c, contributions tables catalog configs [] = .ok c := by
  have hfree : ∀ config ∈ configs, ∀ field ∈ catalog.nested config.index,
      Nested.Unopposed config.index [] field := by
    intro config _ field _ c hc
    cases hc
  obtain ⟨after, hafter⟩ := exists_claimsAfter hknown hcom hfree
  obtain ⟨own, rfl, hown⟩ := claimsAfter_ok hafter
  exact exists_contributions hafter hm.top (hm.claims hown)

/-! ### What follows -/

theorem claimed_of_contributions (h : contributions tables catalog configs [] = .ok c) :
    ∃ own, Claimed catalog configs [] own ∧ (own.map Claim.name).Nodup ∧
      TopMapped tables catalog configs ∧ ClaimsMapped tables own := by
  obtain ⟨own, hafter, htop, hmapped, -⟩ := contributions_ok h
  obtain ⟨hown, hnodup⟩ := claimed_of_claimsAfter hafter
  exact ⟨own, hown, hnodup, htop, hmapped⟩

/-- When coherent indices contribute, every field within reach has a client type: those that were not
met are the same as others that were. -/
theorem mapped_of_contributions (hk : catalog.Keyed) (hcoh : Coherent catalog configs)
    (h : contributions tables catalog configs [] = .ok c) : Mapped tables catalog configs := by
  obtain ⟨own, hown, -, htop, hmapped⟩ := claimed_of_contributions h
  intro config hconfig p hp
  rcases Nested.mem_reached_iff.mp hp with hp | ⟨field, hfield, hp⟩
  · exact htop config hconfig p hp
  · obtain ⟨k, hkown, -, hsame⟩ := hown.exists_of_nested hk hcoh hconfig field hfield
    have hkfield : Fields.Keyed field.2 := Nested.keyed_of_within (hk.top config.index) hfield
    obtain ⟨q, hq, -, hpq⟩ :=
      FieldType.exists_of_eqvFields (FieldType.eqvFields_symm (hown.keyed hk hkown) hkfield hsame) hp
    have htype : p.2.esType = q.2.esType := (FieldType.eqv_iff.mp hpq).1
    rw [TypeTables.Maps, htype]
    exact hmapped k hkown q hq

/-- When coherent indices contribute, they are compatible: of one name there is one claim. -/
theorem compatible_of_contributions (hk : catalog.Keyed) (hcoh : Coherent catalog configs)
    (h : contributions tables catalog configs [] = .ok c) : Compatible catalog configs := by
  obtain ⟨own, hown, hnodup, -⟩ := claimed_of_contributions h
  intro c hc d hd _ x hx y hy hname
  obtain ⟨k, hkmem, hkname, hkx⟩ := hown.exists_of_nested hk hcoh hc x hx
  obtain ⟨l, hlmem, hlname, hly⟩ := hown.exists_of_nested hk hcoh hd y hy
  have hkl : k = l :=
    List.inj_on_of_nodup_map hnodup hkmem hlmem (hkname.trans (hname.trans hlname.symm))
  subst hkl
  have hkx' := FieldType.eqvFields_symm (hown.keyed hk hkmem)
    (Nested.keyed_of_within (hk.top c.index) hx) hkx
  exact FieldType.eqvFields_trans hkx' hly

theorem contributions_of_generate {s : Schema} (h : generate tables catalog configs = .ok s) :
    ∃ c, contributions tables catalog configs [] = .ok c ∧ assemble configs c = s := by
  unfold generate at h
  split at h
  · cases h
  · exact map_ok_iff.mp h

theorem generate_ok_iff :
    (∃ s, generate tables catalog configs = .ok s) ↔
      tables.firstGap = none ∧ ∃ c, contributions tables catalog configs [] = .ok c := by
  unfold generate
  cases hgap : tables.firstGap with
  | some gap => simp
  | none => simp [map_ok_iff]

/-- **When a schema is generated.**  It is, for known indices, when every field within reach has a
client type and the indices are compatible; for coherent indices of a keyed catalog there is no other
way.  All that can go wrong is of the schema. -/
theorem generate_outcome (catalog : Catalog) (configs : List IndexConfig)
    (hknown : ∀ config ∈ configs, catalog.Knows config.index) :
    (Mapped .standard catalog configs ∧ Compatible catalog configs →
      ∃ s, generate .standard catalog configs = .ok s) ∧
    (catalog.Keyed → Coherent catalog configs → (∃ s, generate .standard catalog configs = .ok s) →
      Mapped .standard catalog configs ∧ Compatible catalog configs) ∧
    ∀ f, generate .standard catalog configs = .error f → f.kind = .schema := by
  refine ⟨?_, ?_, ?_⟩
  · rintro ⟨hm, hcom⟩
    exact generate_ok_iff.mpr
      ⟨TypeTables.firstGap_standard, exists_contributions_of_mapped hknown hm hcom⟩
  · intro hk hcoh hgen
    obtain ⟨-, c, hc⟩ := generate_ok_iff.mp hgen
    exact ⟨mapped_of_contributions hk hcoh hc, compatible_of_contributions hk hcoh hc⟩
  · intro f hf
    unfold generate at hf
    rw [TypeTables.firstGap_standard] at hf
    exact kind_of_contributions hknown (map_error_iff.mp hf)

end Schema

/-- Two indices that share a nested field, at the top level of one and below another field of the
other. -/
def Catalog.studies : Catalog :=
  let files := ("files", FieldType.mk "nested" true (some [("name", .mk "keyword" false none)]))
  ⟨[("cases", [("day", .mk "long" false none), ("visits", .mk "nested" false (some [files]))]),
    ("samples", [("tags", .mk "keyword" true none), files])]⟩

def IndexConfig.studies : List IndexConfig := [⟨"cases", "case"⟩, ⟨"samples", "sample"⟩]

/-- An index with two nested fields of one name, of which the second has a field without a client
type. -/
def Catalog.hidden : Catalog :=
  let place := ("place", FieldType.mk "geo_point" false none)
  ⟨[("i", [("a", .mk "nested" false (some [("x", .mk "keyword" false none)])),
    ("b", .mk "nested" false (some [("a", .mk "nested" false (some [place]))]))])]⟩

theorem Catalog.keyed_studies : Catalog.studies.Keyed := by
  simp [Catalog.studies, Catalog.Keyed, Fields.Keyed, Fields.names, FieldType.AllKeyed, FieldType.Keyed]

namespace Schema

theorem exists_generate_studies :
    ∃ s, generate .standard Catalog.studies IndexConfig.studies = .ok s :=
  isOk_iff.mp (by decide +kernel)

theorem generate_outcome_of_studies :
    (∀ config ∈ IndexConfig.studies, Catalog.studies.Knows config.index) ∧
    (Mapped .standard Catalog.studies IndexConfig.studies ∧
      Compatible Catalog.studies IndexConfig.studies) ∧
    Coherent Catalog.studies IndexConfig.studies ∧
    (∃ s, generate .standard Catalog.studies IndexConfig.studies = .ok s) ∧
    (Catalog.studies.Keyed → Coherent Catalog.studies IndexConfig.studies →
      (∃ s, generate .standard Catalog.studies IndexConfig.studies = .ok s) →
      Mapped .standard Catalog.studies IndexConfig.studies ∧
        Compatible Catalog.studies IndexConfig.studies) ∧
    ∀ f, generate .standard Catalog.studies IndexConfig.studies = .error f → f.kind = .schema := by
  have hknown : ∀ config ∈ IndexConfig.studies, Catalog.studies.Knows config.index := by decide +kernel
  have hm : Mapped .standard Catalog.studies IndexConfig.studies ∧
      Compatible Catalog.studies IndexConfig.studies := by decide +kernel
  obtain ⟨hgen, hconv, hkind⟩ := generate_outcome Catalog.studies IndexConfig.studies hknown
  exact ⟨hknown, hm, by decide +kernel, hgen hm, hconv, hkind⟩

/-- The second field of the name is never looked at, so the schema is generated although a field within
reach has no client type. -/
theorem not_outcome_of_hidden :
    ¬ ((∃ s, generate .standard Catalog.hidden [⟨"i", "case"⟩] = .ok s) ↔
      Mapped .standard Catalog.hidden [⟨"i", "case"⟩] ∧ Compatible Catalog.hidden [⟨"i", "case"⟩]) := by
  have hgen : ∃ s, generate .standard Catalog.hidden [⟨"i", "case"⟩] = .ok s :=
    isOk_iff.mp (by decide +kernel)
  have hm : ¬ Mapped .standard Catalog.hidden [⟨"i", "case"⟩] := by decide +kernel
  exact fun h => hm (h.mp hgen).1

end Schema

end ScopedSearch
