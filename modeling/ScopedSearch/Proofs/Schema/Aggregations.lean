import ScopedSearch.Proofs.Query.Compile
import ScopedSearch.Proofs.Schema.Success
import ScopedSearch.Proofs.Filter.Spelling

/-!
# What can be aggregated

Filters are compiled by the types of the index, and histograms are looked up by the type under which a
field is exposed.  Under the tables in use the two agree on every field that is not nested: the
aggregations of an index are those of the fields that can be filtered, list or not
(`aggregation_agrees_iff`).  A nested field is exposed under its own name, and when that is the name of
a scalar it has a histogram although no filter on it is accepted.
-/

namespace ScopedSearch

/-! ### Equality filters -/

def Wire.equality (operator field : String) (value : Value) : Wire :=
  .json (.obj [(operator, .obj [(field, value)])])

namespace Lexicon

def Accepts (lex : Lexicon) (filter : Wire) : Prop := ∃ f, lex.compile filter = .ok f

/-- **An equality filter is accepted on the known fields whose types have a class.** -/
theorem accepts_equality_iff {lex : Lexicon} {operator field : String} {value : Value}
    (ho : Operator.ofSpelling? operator = some .eq) :
    lex.Accepts (.equality operator field value) ↔
      ∃ t, lex.fields.lookup field = some t ∧ (lex.tables.class? t.esType).isSome = true := by
  have hparse : (Wire.equality operator field value).parse 0 =
      .ok (some (.leaf ⟨operator, field, value⟩)) := by
    simp [Wire.equality, Wire.parse, Value.parseFilter, Operator.ofKey?_eq_none ho,
      Value.toCondition]
  rw [Accepts, compile, hparse]
  simp only [bind, Except.bind, compileExpr?, Expr.compile, ownLeaf, map_ok_iff]
  constructor
  · rintro ⟨-, f, hf, -⟩
    obtain ⟨t, k, -, ht, hk, -⟩ := clause_ok hf
    exact ⟨t, ht, by simp [hk]⟩
  · rintro ⟨t, ht, hk⟩
    obtain ⟨k, hk⟩ := Option.isSome_iff_exists.mp hk
    refine ⟨_, .term field value, ?_, rfl⟩
    cases k <;> simp [clause, ht, hk, FieldClass.clause, ho, FieldClass.allows, Fragment.ofOperator]

theorem accepts_equality_of_mem {tables : TypeTables} {fields : Fields} {p : String × FieldType}
    (hk : Fields.Keyed fields) (hp : p ∈ fields) {operator : String} {value : Value}
    (ho : Operator.ofSpelling? operator = some .eq) :
    (⟨tables, fields⟩ : Lexicon).Accepts (.equality operator p.1 value) ↔
      (tables.class? p.2.esType).isSome = true := by
  simp [accepts_equality_iff ho, Fields.lookup_of_mem hk.1 hp]

end Lexicon

theorem Catalog.lexicon_eq (c : Catalog) (index : String) :
    c.lexicon index = ⟨.standard, c.top index⟩ := rfl

/-! ### The aggregations of a schema -/

/-- Whether fields that are exposed under a type can be aggregated. -/
def TypeTables.Aggregates (tables : TypeTables) (type : String) : Prop :=
  ∃ h, tables.histogram? type = some h ∧ h ≠ ""

instance (tables : TypeTables) (type : String) : Decidable (tables.Aggregates type) :=
  decidable_of_iff ((tables.histogram? type).any (· != "") = true) (by
    simp [TypeTables.Aggregates, Option.any_eq_true])

namespace Schema

variable {tables : TypeTables} {catalog : Catalog} {config : IndexConfig} {configs : List IndexConfig}
  {s : Schema} {p : String × FieldType} {f : FieldDef}

/-- The types for the aggregations of some indices, in their order: they come right before the types
that every schema has last. -/
def aggregationTypes (s : Schema) (configs : List IndexConfig) : List ObjectType :=
  let last := histogramTypes.length + bucketTypes.length + 1
  (s.types.drop (s.types.length - last - configs.length)).take configs.length

theorem aggregationTypes_assemble {c : Contribution} (h : c.aggregations.length = configs.length) :
    (assemble configs c).aggregationTypes configs = c.aggregations := by
  have htypes : (assemble configs c).types =
      ([matchedItemType, queryType c.entries] ++ c.types ++ [aggregationRoot configs]) ++
        (c.aggregations ++ (histogramTypes ++ bucketTypes ++ [mappingType configs])) := by
    simp [assemble]
  rw [aggregationTypes, htypes, List.drop_left' (by simp; omega), List.take_left' h]

theorem aggregationTypes_of_generate (h : generate tables catalog configs = .ok s) :
    TopMapped tables catalog configs ∧
      s.aggregationTypes configs = configs.map (topAggregation tables catalog) := by
  obtain ⟨c, hc, rfl⟩ := contributions_of_generate h
  obtain ⟨own, -, htop, -, -, -, haggs⟩ := contributions_ok hc
  refine ⟨htop, ?_⟩
  rw [aggregationTypes_assemble (by rw [haggs, List.length_map]), haggs]

def histogramOf? (tables : TypeTables) (p : String × FieldType) : Option FieldDef :=
  histogramField? tables (exposedField tables p)

theorem fields_topAggregation (tables : TypeTables) (catalog : Catalog) (config : IndexConfig) :
    (topAggregation tables catalog config).fields =
      .plain "_totalCount" "Int" ::
        (catalog.top config.index).filterMap (histogramOf? tables) := by
  rw [topAggregation, aggregationType, List.filterMap_map]
  rfl

theorem histogramOf?_eq_some : histogramOf? tables p = some f ↔
    ∃ h, tables.histogram? (exposedName tables p.1 p.2) = some h ∧ h ≠ "" ∧ f = .plain p.1 h := by
  rw [histogramOf?, histogramField?]
  simp only [exposedField, FieldDef.plain]
  cases tables.histogram? (exposedName tables p.1 p.2) with
  | none => simp
  | some h =>
    by_cases hne : h = ""
    · simp [hne]
    · simp only [beq_iff_eq, hne, ↓reduceIte, Option.some.injEq, exists_eq_left', ne_eq,
        not_false_eq_true, true_and]
      exact eq_comm

theorem exists_histogramOf?_iff : (∃ f, histogramOf? tables p = some f) ↔
    tables.Aggregates (exposedName tables p.1 p.2) := by
  simp only [histogramOf?_eq_some, TypeTables.Aggregates]
  constructor
  · rintro ⟨f, h, hh, hne, -⟩
    exact ⟨h, hh, hne⟩
  · rintro ⟨h, hh, hne⟩
    exact ⟨_, h, hh, hne, rfl⟩

/-- Of the fields on one level, those with an entry are told by the names of the entries, when the
entries keep the names. -/
theorem mem_names_filterMap {fields : Fields} {field? : String × FieldType → Option FieldDef}
    (hk : Fields.Keyed fields) (hname : ∀ q f, field? q = some f → f.name = q.1) (hp : p ∈ fields) :
    p.1 ∈ FieldDef.names (fields.filterMap field?) ↔ ∃ f, field? p = some f := by
  rw [FieldDef.names, List.mem_map]
  constructor
  · rintro ⟨f, hf, hfp⟩
    obtain ⟨q, hq, hqf⟩ := List.mem_filterMap.mp hf
    obtain rfl : q = p := List.inj_on_of_nodup_map hk.1 hq hp ((hname q f hqf).symm.trans hfp)
    exact ⟨f, hqf⟩
  · rintro ⟨f, hf⟩
    exact ⟨f, List.mem_filterMap.mpr ⟨p, hp, hf⟩, hname p f hf⟩

theorem name_of_histogramOf? (h : histogramOf? tables p = some f) : f.name = p.1 :=
  name_of_histogramField? h

/-- **A field is among the aggregations of its index when it is exposed under a type that can be
aggregated.** -/
theorem mem_names_topAggregation (hk : catalog.Keyed) (hp : p ∈ catalog.top config.index) :
    p.1 ∈ FieldDef.names (topAggregation tables catalog config).fields.tail ↔
      tables.Aggregates (exposedName tables p.1 p.2) := by
  rw [fields_topAggregation, List.tail_cons,
    mem_names_filterMap (hk.top config.index) (fun _ _ => name_of_histogramOf?) hp,
    exists_histogramOf?_iff]

theorem mem_zip_map {α β : Type} {g : α → β} {as : List α} {a : α} {b : β}
    (h : (a, b) ∈ as.zip (as.map g)) : a ∈ as ∧ b = g a := by
  induction as with
  | nil => cases h
  | cons x as ih =>
    rcases List.mem_cons.mp h with hx | h
    · cases hx
      exact ⟨List.mem_cons_self .., rfl⟩
    · exact ⟨List.mem_cons_of_mem _ (ih h).1, (ih h).2⟩

end Schema

/-! ### Under the tables in use -/

def FieldClass.histogram : FieldClass → String
  | text => TypeTables.stringHistogram
  | numeric => TypeTables.numberHistogram

theorem FieldClass.histogram_ne_empty (k : FieldClass) : k.histogram ≠ "" := by
  cases k <;> decide

namespace Schema

variable {catalog : Catalog} {config : IndexConfig} {p : String × FieldType} {f : FieldDef}

def classHistogram? (tables : TypeTables) (p : String × FieldType) : Option FieldDef :=
  (tables.class? p.2.esType).map fun k => .plain p.1 k.histogram

/-- The type for the aggregations of an index, told by the classes of its fields. -/
def classAggregation (tables : TypeTables) (catalog : Catalog) (config : IndexConfig) : ObjectType :=
  ⟨aggregationName config.type,
    .plain "_totalCount" "Int" :: (catalog.top config.index).filterMap (classHistogram? tables)⟩

/-- A nested field that is exposed under the name of a scalar. -/
def Impersonates (p : String × FieldType) : Prop :=
  p.2.isNested = true ∧ Text.capitalize p.1 ∈ ["String", "Int", "Float"]

instance (p : String × FieldType) : Decidable (Impersonates p) := inferInstanceAs (Decidable (_ ∧ _))

/-- The types of the index that are not nested have the histograms of their classes, as lists too. -/
theorem histogram?_standard : ∀ e ∈ TypeTables.standard.clientTypes, e.1 ≠ "nested" →
    ∀ isArray : Bool, TypeTables.standard.histogram? (if isArray then listOf e.2 else e.2) =
      (TypeTables.standard.class? e.1).map FieldClass.histogram := by
  decide +kernel

theorem listOf_injective : Function.Injective listOf := by
  intro a b h
  simpa [listOf, ← String.toList_inj] using h

theorem aggregates_listOf_standard {name : String} :
    TypeTables.standard.Aggregates (listOf name) ↔ name ∈ ["String", "Int", "Float"] := by
  have hkeys : ∀ e ∈ TypeTables.standard.histograms, e.1.toList.head? = some '[' →
      ∃ scalar ∈ ["String", "Int", "Float"], e.1 = listOf scalar := by decide +kernel
  have hscalars : ∀ scalar ∈ ["String", "Int", "Float"],
      TypeTables.standard.Aggregates (listOf scalar) := by decide +kernel
  constructor
  · rintro ⟨h, hh, -⟩
    obtain ⟨scalar, hscalar, hname⟩ := hkeys _ (mem_of_lookup hh) (by simp [listOf])
    rwa [listOf_injective hname]
  · exact hscalars name

theorem isNested_iff {t : FieldType} : t.isNested = true ↔ t.esType = "nested" := by
  simp [FieldType.isNested]

theorem class?_of_isNested {t : FieldType} (hn : t.isNested = true) :
    TypeTables.standard.class? t.esType = none := by
  rw [isNested_iff.mp hn]
  decide +kernel

theorem exposedName_of_isNested {tables : TypeTables} (hn : p.2.isNested = true) :
    exposedName tables p.1 p.2 = listOf (Text.capitalize p.1) := by
  rw [exposedName, if_pos hn]

theorem histogramOf?_of_not_nested (hm : TypeTables.standard.Maps p.2) (hn : ¬ p.2.isNested = true) :
    histogramOf? .standard p = classHistogram? .standard p := by
  obtain ⟨client, hclient⟩ := Option.isSome_iff_exists.mp hm
  have hhistogram := histogram?_standard _ (mem_of_lookup hclient)
    (fun h => hn (isNested_iff.mpr h)) p.2.isArray
  have hname : exposedName .standard p.1 p.2 = if p.2.isArray then listOf client else client := by
    simp only [exposedName, if_neg hn, hclient, Option.getD_some]
  rw [histogramOf?, histogramField?]
  simp only [exposedField, FieldDef.plain, hname, hhistogram, classHistogram?]
  cases TypeTables.standard.class? p.2.esType with
  | none => rfl
  | some k => simp [FieldClass.histogram_ne_empty]

/-- **A field has a histogram when its type has a class**, and besides when it passes for a scalar. -/
theorem exists_histogramOf?_standard (hm : TypeTables.standard.Maps p.2) :
    (∃ f, histogramOf? .standard p = some f) ↔
      (TypeTables.standard.class? p.2.esType).isSome = true ∨ Impersonates p := by
  by_cases hn : p.2.isNested = true
  · rw [exists_histogramOf?_iff, exposedName_of_isNested hn, aggregates_listOf_standard,
      class?_of_isNested hn, Impersonates]
    simp [hn]
  · rw [histogramOf?_of_not_nested hm hn]
    simp [classHistogram?, Option.isSome_iff_exists, Impersonates, hn]

theorem histogramOf?_of_not_impersonates (hm : TypeTables.standard.Maps p.2)
    (hp : ¬ Impersonates p) : histogramOf? .standard p = classHistogram? .standard p := by
  by_cases hn : p.2.isNested = true
  · have hnone : ¬ ∃ f, histogramOf? .standard p = some f := by
      simp [exists_histogramOf?_standard hm, class?_of_isNested hn, hp]
    rw [classHistogram?, class?_of_isNested hn, Option.map_none, Option.eq_none_iff_forall_ne_some]
    exact fun f hf => hnone ⟨f, hf⟩
  · exact histogramOf?_of_not_nested hm hn

theorem name_of_classHistogram? {tables : TypeTables} (h : classHistogram? tables p = some f) :
    f.name = p.1 := by
  obtain ⟨k, -, rfl⟩ := Option.map_eq_some_iff.mp h
  rfl

theorem topAggregation_eq_iff : topAggregation .standard catalog config =
      classAggregation .standard catalog config ↔
    (catalog.top config.index).filterMap (histogramOf? .standard) =
      (catalog.top config.index).filterMap (classHistogram? .standard) := by
  have hclass : topAggregation .standard catalog config = classAggregation .standard catalog config ↔
      (topAggregation .standard catalog config).fields =
        (classAggregation .standard catalog config).fields := by
    simp [topAggregation, aggregationType, classAggregation]
  rw [hclass, fields_topAggregation]
  simp [classAggregation]

/-- The aggregations of an index are those of the classes of its fields exactly when none of them passes
for a scalar. -/
theorem topAggregation_standard_iff (hk : catalog.Keyed)
    (htop : ∀ p ∈ catalog.top config.index, TypeTables.standard.Maps p.2) :
    topAggregation .standard catalog config = classAggregation .standard catalog config ↔
      ∀ p ∈ catalog.top config.index, ¬ Impersonates p := by
  have hkeyed := hk.top config.index
  rw [topAggregation_eq_iff]
  constructor
  · intro h p hp himp
    have hentry := (exists_histogramOf?_standard (htop p hp)).mpr (.inr himp)
    -- the entry of the field is kept by name, so it is among those of the classes
    rw [← mem_names_filterMap hkeyed (fun _ _ => name_of_histogramOf?) hp, h,
      mem_names_filterMap hkeyed (fun _ _ => name_of_classHistogram?) hp] at hentry
    simp [classHistogram?, class?_of_isNested himp.1] at hentry
  · intro h
    exact List.filterMap_congr fun p hp => histogramOf?_of_not_impersonates (htop p hp) (h p hp)

/-- **Schema and filters agree on what can be aggregated, unless a nested field passes for a scalar.**
Under the tables in use, the aggregations of the indices in a schema are those of the classes of their
fields, in the order of the catalog, exactly when no nested field at a top level is exposed under the
name of a scalar.  A field has a histogram when equality filters on it are accepted, and besides when it
is such a field, on which they are not. -/
theorem aggregation_agrees_iff (catalog : Catalog) (configs : List IndexConfig) (hk : catalog.Keyed)
    {s : Schema} (h : generate .standard catalog configs = .ok s) :
    (s.aggregationTypes configs = configs.map (classAggregation .standard catalog) ↔
      ∀ config ∈ configs, ∀ p ∈ catalog.top config.index, ¬ Impersonates p) ∧
    ∀ config t, (config, t) ∈ configs.zip (s.aggregationTypes configs) →
      ∀ p ∈ catalog.top config.index, ∀ operator value, Operator.ofSpelling? operator = some .eq →
        (p.1 ∈ FieldDef.names t.fields.tail ↔
          (catalog.lexicon config.index).Accepts (.equality operator p.1 value) ∨ Impersonates p) ∧
        (Impersonates p →
          ¬ (catalog.lexicon config.index).Accepts (.equality operator p.1 value)) := by
  obtain ⟨htop, haggs⟩ := aggregationTypes_of_generate h
  rw [haggs]
  constructor
  · rw [List.map_inj_left]
    exact forall₂_congr fun config hconfig => topAggregation_standard_iff hk (htop config hconfig)
  · intro config t hzip p hp operator value ho
    obtain ⟨hconfig, rfl⟩ := mem_zip_map hzip
    have haccepts : (⟨.standard, catalog.top config.index⟩ : Lexicon).Accepts
        (.equality operator p.1 value) ↔ (TypeTables.standard.class? p.2.esType).isSome = true :=
      Lexicon.accepts_equality_of_mem (hk.top config.index) hp ho
    rw [mem_names_topAggregation hk hp, ← exists_histogramOf?_iff,
      exists_histogramOf?_standard (htop config hconfig p hp), Catalog.lexicon_eq, haccepts]
    refine ⟨Iff.rfl, fun himp => ?_⟩
    simp [class?_of_isNested himp.1]

/-- Among the studies no field passes for a scalar, and the tags, which are lists, are aggregated. -/
theorem aggregation_agrees_iff_of_studies :
    Catalog.studies.Keyed ∧ ∃ s, generate .standard Catalog.studies IndexConfig.studies = .ok s ∧
      s.aggregationTypes IndexConfig.studies =
        IndexConfig.studies.map (classAggregation .standard Catalog.studies) ∧
      ∃ t, (⟨"samples", "sample"⟩, t) ∈
          IndexConfig.studies.zip (s.aggregationTypes IndexConfig.studies) ∧
        ("tags", .mk "keyword" true none) ∈ Catalog.studies.top "samples" ∧
        ("tags" ∈ FieldDef.names t.fields.tail ↔
          (Catalog.studies.lexicon "samples").Accepts (.equality "=" "tags" (.str "a")) ∨
            Impersonates ("tags", .mk "keyword" true none)) := by
  obtain ⟨s, hs⟩ := exists_generate_studies
  obtain ⟨hall, hfields⟩ :=
    aggregation_agrees_iff Catalog.studies IndexConfig.studies Catalog.keyed_studies hs
  have haggs := hall.mpr (by decide +kernel)
  have htags : ("tags", .mk "keyword" true none) ∈ Catalog.studies.top "samples" :=
    List.mem_cons_self ..
  have hzip : (⟨"samples", "sample"⟩, classAggregation .standard Catalog.studies ⟨"samples", "sample"⟩) ∈
      IndexConfig.studies.zip (s.aggregationTypes IndexConfig.studies) := by
    rw [haggs]
    exact List.mem_cons_of_mem _ (List.mem_cons_self ..)
  exact ⟨Catalog.keyed_studies, s, hs, haggs, _, hzip, htags,
    (hfields _ _ hzip _ htags "=" (.str "a") rfl).1⟩

end Schema

/-- An index with a nested field that has the name of a scalar. -/
def Catalog.impostor : Catalog :=
  ⟨[("i", [("string", .mk "nested" false (some [("x", .mk "keyword" false none)]))])]⟩

namespace Schema

/-- The nested field has a histogram, although its type has no class and no filter on it is accepted. -/
theorem not_aggregation_agrees_of_impostor :
    ∃ s, generate .standard Catalog.impostor [⟨"i", "case"⟩] = .ok s ∧
      s.aggregationTypes [⟨"i", "case"⟩] ≠
        [classAggregation .standard Catalog.impostor ⟨"i", "case"⟩] ∧
      (∃ t ∈ s.aggregationTypes [⟨"i", "case"⟩], "string" ∈ FieldDef.names t.fields) ∧
      ¬ (Catalog.impostor.lexicon "i").Accepts (.equality "=" "string" (.str "a")) := by
  obtain ⟨s, hs⟩ : ∃ s, generate .standard Catalog.impostor [⟨"i", "case"⟩] = .ok s :=
    isOk_iff.mp (by decide +kernel)
  refine ⟨s, hs, ?_, ?_, ?_⟩
  · rw [(aggregationTypes_of_generate hs).2]
    decide +kernel
  · rw [(aggregationTypes_of_generate hs).2]
    decide +kernel
  · rw [Lexicon.accepts_equality_iff rfl]
    rintro ⟨t, ht, hclass⟩
    obtain rfl : _ = t := Option.some.inj ht
    revert hclass
    decide +kernel

end Schema

end ScopedSearch
