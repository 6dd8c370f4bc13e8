import Mathlib.Data.Option.Basic
import Mathlib.Data.List.Forall2
import ScopedSearch.Proofs.Catalog.Equality

/-!
# Field types mirror the mapping

Which blocks of properties describe fields (`DescribesFields`), and what is found in a block and in the
fields that are read from it when one goes down by the names of nested fields (`blockAt?`,
`Fields.levelAt?`).  Reading succeeds exactly on the blocks that describe fields, and then there is on
every path a field exactly where there is a mapping, with the same siblings in the same order, and the
field tells what its mapping says (`fieldTypes_mirror`).
-/

namespace ScopedSearch

/-! ### Going down -/

def Value.keys : Value → List String
  | .obj es => es.map Prod.fst
  | _ => []

/-- The fields below a path of names. -/
def Fields.levelAt? : Fields → List String → Option Fields
  | fields, [] => some fields
  | fields, name :: path =>
    (fields.lookup name).bind fun t => t.properties?.bind fun below => levelAt? below path

namespace Mapping

/-- The block of properties below a path of names. -/
def blockAt? : Value → List String → Option Value
  | block, [] => some block
  | block, name :: path =>
    (block.get? name).bind fun m => (m.get? "properties").bind fun below => blockAt? below path

/-! ### Blocks that describe fields -/

/-- The blocks of properties that describe fields: in every one of their mappings, a type is a text if
it is there, and the properties are such a block if they are. -/
inductive DescribesFields : Value → Prop where
  | block {es : Entries} (hmapping : ∀ e ∈ es, ∃ m, e.2 = .obj m)
      (htype : ∀ e ∈ es, ∀ t, e.2.get? "type" = some t → ∃ s, t = .str s)
      (hbelow : ∀ e ∈ es, ∀ below, e.2.get? "properties" = some below → DescribesFields below) :
      DescribesFields (.obj es)

/-- A field tells what its mapping says. -/
structure Tells (arrays : List String) (name : String) (mapping : Value) (t : FieldType) : Prop where
  esType : mapping.get? "type" = some (.str t.esType) ∨
    mapping.get? "type" = none ∧ t.esType = "object"
  isArray : t.isArray = true ↔ name ∈ arrays
  properties : t.properties? = none ↔ mapping.get? "properties" = none

/-! ### One mapping -/

/-- A field is read from the mapping under its name. -/
def Reads (arrays : List String) (name : String) (mapping : Value) (t : FieldType) : Prop :=
  ∃ m, mapping = .obj m ∧ typeOf m = .ok t.esType ∧ t.isArray = arrays.contains name ∧
    subTypes arrays m = .ok t.properties?

variable {arrays : List String}

theorem typeOf_ok_iff {m : Entries} {t : String} :
    typeOf m = .ok t ↔ m.lookup "type" = some (.str t) ∨ m.lookup "type" = none ∧ t = "object" := by
  unfold typeOf
  cases m.lookup "type" with
  | none => simp [eq_comm]
  | some v => cases v <;> simp

/-- The fields below are read from the properties of a mapping, and there are none without them. -/
theorem subTypes_ok_iff {m : Entries} {sub : Option Fields} :
    subTypes arrays m = .ok sub ↔
      Option.Rel (fun below fields => fieldTypes arrays below = .ok fields) (m.lookup "properties")
        sub := by
  induction m with
  | nil => cases sub <;> simp [subTypes]
  | cons e m ih =>
    obtain ⟨key, v⟩ := e
    rw [subTypes]
    by_cases hkey : key = "properties"
    · subst hkey
      rw [if_pos (by simp), map_ok_iff]
      cases sub <;> simp
    · have hne : ("properties" == key) = false := by simpa using Ne.symm hkey
      rw [if_neg (by simpa using hkey), ih, List.lookup_cons, hne]

theorem tells_of_reads {name : String} {mapping : Value} {t : FieldType}
    (h : Reads arrays name mapping t) : Tells arrays name mapping t := by
  obtain ⟨m, rfl, htype, harray, hsub⟩ := h
  refine ⟨typeOf_ok_iff.mp htype, by simp [harray], ?_⟩
  show t.properties? = none ↔ m.lookup "properties" = none
  have hrel := subTypes_ok_iff.mp hsub
  generalize m.lookup "properties" = below at hrel
  generalize t.properties? = fields at hrel
  cases hrel <;> simp

/-! ### Whole blocks -/

/-- The fields of a block are read from its entries one by one. -/
theorem entryTypes_ok_iff {es : Entries} {fields : Fields} :
    entryTypes arrays es = .ok fields ↔
      List.Forall₂ (fun e p => p.1 = e.1 ∧ Reads arrays e.1 e.2 p.2) es fields := by
  induction es generalizing fields with
  | nil => simp [entryTypes, eq_comm]
  | cons e es ih =>
    obtain ⟨name, v⟩ := e
    constructor
    · intro h
      cases v with
      | obj m =>
        rw [entryTypes] at h
        obtain ⟨sub, hsub, h⟩ := bind_ok_iff.mp h
        obtain ⟨t, ht, h⟩ := bind_ok_iff.mp h
        obtain ⟨rest, hrest, h⟩ := bind_ok_iff.mp h
        rw [← pure_ok_iff.mp h]
        exact .cons ⟨rfl, m, rfl, ht, rfl, hsub⟩ (ih.mp hrest)
      | _ => simp [entryTypes] at h
    · intro h
      obtain ⟨⟨field, t, a, sub⟩, rest, ⟨hname, m, hm, ht, ha, hsub⟩, hrest, rfl⟩ :=
        List.forall₂_cons_left_iff.mp h
      cases hname
      cases hm
      cases ha
      rw [entryTypes, show subTypes arrays m = .ok sub from hsub,
        show typeOf m = .ok t from ht, ih.mpr hrest]
      rfl

theorem fieldTypes_ok_iff {block : Value} {fields : Fields} :
    fieldTypes arrays block = .ok fields ↔
      ∃ es, block = .obj es ∧
        List.Forall₂ (fun e p => p.1 = e.1 ∧ Reads arrays e.1 e.2 p.2) es fields := by
  cases block with
  | obj es => simp [fieldTypes, entryTypes_ok_iff]
  | _ => simp [fieldTypes]

/-- Under every name there is a field exactly where there is a mapping, from which it is read. -/
theorem reads_lookup {block : Value} {fields : Fields} (h : fieldTypes arrays block = .ok fields)
    (name : String) : Option.Rel (Reads arrays name) (block.get? name) (fields.lookup name) := by
  obtain ⟨es, rfl, hes⟩ := fieldTypes_ok_iff.mp h
  show Option.Rel (Reads arrays name) (es.lookup name) (fields.lookup name)
  clear h
  induction hes with
  | nil => exact .none
  | @cons e p es fields hone _ ih =>
    obtain ⟨key, v⟩ := e
    obtain ⟨key', t⟩ := p
    obtain ⟨hkey, hreads⟩ := hone
    cases hkey
    by_cases hname : name = key
    · subst hname
      simpa using Option.Rel.some hreads
    · have hne : (name == key) = false := by simpa using hname
      rw [List.lookup_cons, List.lookup_cons, hne]
      exact ih

/-- On every path there is a level of fields exactly where there is a block, from which it is read. -/
theorem reads_levelAt? {block : Value} {fields : Fields} (h : fieldTypes arrays block = .ok fields)
    (path : List String) :
    Option.Rel (fun below level => fieldTypes arrays below = .ok level) (blockAt? block path)
      (Fields.levelAt? fields path) := by
  induction path generalizing block fields with
  | nil => exact .some h
  | cons name path ih =>
    rw [blockAt?, Fields.levelAt?]
    have hfield := reads_lookup h name
    generalize block.get? name = mapping at hfield
    generalize fields.lookup name = field at hfield
    cases hfield with
    | none => exact .none
    | @some mapping t hreads =>
      obtain ⟨m, rfl, -, -, hsub⟩ := hreads
      have hbelow := subTypes_ok_iff.mp hsub
      show Option.Rel _ ((m.lookup "properties").bind fun below => blockAt? below path)
        (t.properties?.bind fun below => Fields.levelAt? below path)
      generalize m.lookup "properties" = properties at hbelow
      generalize t.properties? = sub at hbelow
      cases hbelow with
      | none => exact .none
      | some hbelow => exact ih hbelow

/-! ### Success -/

theorem sizeOf_lt_of_get? {v w : Value} {key : String} (h : v.get? key = some w) :
    sizeOf w < sizeOf v := by
  cases v with
  | obj es =>
    have hmem := List.sizeOf_lt_of_mem (mem_of_lookup h)
    simp only [Prod.mk.sizeOf_spec, Value.obj.sizeOf_spec] at hmem ⊢
    omega
  | _ => cases h

/-- What is read describes fields. -/
theorem describesFields_of_ok {block : Value} {fields : Fields}
    (h : fieldTypes arrays block = .ok fields) : DescribesFields block := by
  obtain ⟨es, hblock, hes⟩ := fieldTypes_ok_iff.mp h
  have hreads : ∀ e ∈ es, ∃ t, Reads arrays e.1 e.2 t :=
    ((List.forall₂_and_left _ _).mp (hes.imp fun e p hp => ⟨⟨p.2, hp.2⟩, hp⟩)).1
  rw [hblock]
  refine .block ?_ ?_ ?_
  · intro e he
    obtain ⟨t, m, hm, -⟩ := hreads e he
    exact ⟨m, hm⟩
  · intro e he type htype
    obtain ⟨t, hread⟩ := hreads e he
    rcases (tells_of_reads hread).esType with hstr | ⟨hnone, -⟩
    · exact ⟨t.esType, Option.some_inj.mp (htype.symm.trans hstr)⟩
    · exact absurd (htype.symm.trans hnone) (by simp)
  · intro e he below hbelow
    obtain ⟨t, m, hm, -, -, hsub⟩ := hreads e he
    have hrel := subTypes_ok_iff.mp hsub
    have hlookup : m.lookup "properties" = some below := by rwa [hm] at hbelow
    rw [hlookup] at hrel
    have hsmaller : sizeOf below < sizeOf block := by
      have hentry := List.sizeOf_lt_of_mem he
      have hproperties := sizeOf_lt_of_get? hbelow
      obtain ⟨key, v⟩ := e
      simp only [hblock, Prod.mk.sizeOf_spec, Value.obj.sizeOf_spec] at hentry hproperties ⊢
      omega
    generalize t.properties? = sub at hrel
    cases hrel with
    | some hfields => exact describesFields_of_ok hfields
termination_by sizeOf block

/-- A mapping is read when its type is a text, if it is there, and its properties are read, if they
are. -/
theorem exists_reads {name : String} {m : Entries}
    (htype : ∀ t, m.lookup "type" = some t → ∃ s, t = .str s)
    (hbelow : ∀ below, m.lookup "properties" = some below →
      ∃ fields, fieldTypes arrays below = .ok fields) :
    ∃ t, Reads arrays name (.obj m) t := by
  have hes : ∃ s, typeOf m = .ok s := by
    cases hlookup : m.lookup "type" with
    | none => exact ⟨"object", typeOf_ok_iff.mpr (.inr ⟨hlookup, rfl⟩)⟩
    | some v =>
      obtain ⟨s, rfl⟩ := htype v hlookup
      exact ⟨s, typeOf_ok_iff.mpr (.inl hlookup)⟩
  have hsub : ∃ sub, subTypes arrays m = .ok sub := by
    cases hlookup : m.lookup "properties" with
    | none => exact ⟨none, subTypes_ok_iff.mpr (by rw [hlookup]; exact .none)⟩
    | some below =>
      obtain ⟨fields, hfields⟩ := hbelow below hlookup
      exact ⟨some fields, subTypes_ok_iff.mpr (by rw [hlookup]; exact .some hfields)⟩
  obtain ⟨s, hs⟩ := hes
  obtain ⟨sub, hsub⟩ := hsub
  exact ⟨.mk s (arrays.contains name) sub, m, rfl, hs, rfl, hsub⟩

theorem exists_entryTypes {es : Entries} (h : ∀ e ∈ es, ∃ t, Reads arrays e.1 e.2 t) :
    ∃ fields, entryTypes arrays es = .ok fields := by
  induction es with
  | nil => exact ⟨[], by rw [entryTypes]⟩
  | cons e es ih =>
    obtain ⟨⟨t, ht⟩, hes⟩ := List.forall_mem_cons.mp h
    obtain ⟨fields, hfields⟩ := ih hes
    exact ⟨(e.1, t) :: fields,
      entryTypes_ok_iff.mpr (.cons ⟨rfl, ht⟩ (entryTypes_ok_iff.mp hfields))⟩

/-- What describes fields is read. -/
theorem exists_fieldTypes {block : Value} (h : DescribesFields block) :
    ∃ fields, fieldTypes arrays block = .ok fields := by
  induction h with
  | @block es hmapping htype _ ih =>
    rw [fieldTypes]
    refine exists_entryTypes fun e he => ?_
    obtain ⟨m, hm⟩ := hmapping e he
    have htype := htype e he
    have hbelow := ih e he
    rw [hm] at htype hbelow ⊢
    exact exists_reads htype hbelow

/-- **The fields mirror the mapping.**  A block of properties is read exactly when it describes fields.
Then on every path of names there is a level of fields exactly where there is a block of properties, with
the same names in the same order; and under every name on it there is a field exactly where there is a
mapping.  The field has the type of the mapping, it holds a list when its own name is among the arrays,
wherever it is, and it has fields below exactly when the mapping has properties. -/
theorem fieldTypes_mirror (arrays : List String) (block : Value) :
    ((∃ fields, fieldTypes arrays block = .ok fields) ↔ DescribesFields block) ∧
    ∀ fields, fieldTypes arrays block = .ok fields → ∀ path,
      (blockAt? block path).map Value.keys = (Fields.levelAt? fields path).map Fields.names ∧
      ∀ name, Option.Rel (Tells arrays name) ((blockAt? block path).bind (·.get? name))
        ((Fields.levelAt? fields path).bind (·.lookup name)) := by
  refine ⟨⟨fun ⟨fields, h⟩ => describesFields_of_ok h, exists_fieldTypes⟩, ?_⟩
  intro fields h path
  have hlevel := reads_levelAt? h path
  generalize blockAt? block path = below at hlevel
  generalize Fields.levelAt? fields path = level at hlevel
  cases hlevel with
  | none => exact ⟨rfl, fun name => .none⟩
  | @some below level hbelow =>
    refine ⟨?_, fun name => ?_⟩
    · obtain ⟨es, rfl, hes⟩ := fieldTypes_ok_iff.mp hbelow
      have hnames := names_entryTypes (entryTypes_ok_iff.mpr hes)
      rw [Option.map_some, Option.map_some, hnames]
      rfl
    · show Option.Rel _ (below.get? name) (level.lookup name)
      have hfield := reads_lookup hbelow name
      generalize below.get? name = mapping at hfield
      generalize level.lookup name = field at hfield
      cases hfield with
      | none => exact .none
      | some hreads => exact .some (tells_of_reads hreads)

end Mapping

/-- Two fields of one name, at the top level and below a field without a type. -/
def Value.taggedVisits : Value :=
  .obj [("tags", .obj [("type", .str "keyword")]),
    ("visit", .obj [("properties", .obj [("day", .obj [("type", .str "date")]),
      ("tags", .obj [("type", .str "text"), ("properties", .obj [])])])])]

/-- The fields of the visits. -/
def Fields.ofTaggedVisits : Fields :=
  [("day", .mk "date" false none), ("tags", .mk "text" true (some []))]

/-- The type of a field below another is no text. -/
def Value.untypedVisits : Value :=
  .obj [("visit", .obj [("properties", .obj [("day", .obj [("type", .null)])])])]

namespace Mapping

theorem fieldTypes_mirror_of_taggedVisits :
    fieldTypes ["tags"] .taggedVisits = .ok [("tags", .mk "keyword" true none),
      ("visit", .mk "object" false (some Fields.ofTaggedVisits))] ∧
    DescribesFields .taggedVisits ∧
    (blockAt? .taggedVisits ["visit"]).map Value.keys = some ["day", "tags"] ∧
    Tells ["tags"] "tags" (.obj [("type", .str "text"), ("properties", .obj [])])
      (.mk "text" true (some [])) ∧
    fieldTypes ["tags"] .untypedVisits = .error .typeNotText ∧ ¬ DescribesFields .untypedVisits := by
  have hread : fieldTypes ["tags"] .taggedVisits = .ok [("tags", .mk "keyword" true none),
      ("visit", .mk "object" false (some Fields.ofTaggedVisits))] := rfl
  have hrefused : fieldTypes ["tags"] .untypedVisits = .error .typeNotText := rfl
  obtain ⟨hdescribes, hmirror⟩ := fieldTypes_mirror ["tags"] .taggedVisits
  obtain ⟨hlevel, hfield⟩ := hmirror _ hread ["visit"]
  have hnot : ¬ DescribesFields .untypedVisits := by
    rw [← (fieldTypes_mirror ["tags"] .untypedVisits).1, hrefused]
    simp
  have htags : Option.Rel (Tells ["tags"] "tags")
      (some (.obj [("type", .str "text"), ("properties", .obj [])]))
      (some (.mk "text" true (some []))) := hfield "tags"
  cases htags with
  | some htells => exact ⟨hread, hdescribes.mp ⟨_, hread⟩, hlevel, htells, hrefused, hnot⟩

end Mapping

end ScopedSearch
