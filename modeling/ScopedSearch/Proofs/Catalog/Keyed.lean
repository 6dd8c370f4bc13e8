import Mathlib.Data.List.Nodup
import ScopedSearch.Catalog.Basic
import ScopedSearch.Proofs.Outcome

/-!
# Catalogs are keyed

No two fields on a level have the same name.  Every mapping whose objects are keyed gives fields that
are (`keyed_of_fieldTypes`), so every catalog that is read from mappings is keyed
(`keyed_ofMappings`), and it stays so when an index is replaced (`Keyed.setIndex`).
-/

namespace ScopedSearch

/-! ### Fields -/

mutual

/-- No two fields on any level below have the same name. -/
def FieldType.Keyed : FieldType → Prop
  | .mk _ _ none => True
  | .mk _ _ (some ps) => (ps.map Prod.fst).Nodup ∧ FieldType.AllKeyed ps

def FieldType.AllKeyed : List (String × FieldType) → Prop
  | [] => True
  | (_, t) :: ps => t.Keyed ∧ FieldType.AllKeyed ps

end

def Fields.names (ps : Fields) : List String := ps.map Prod.fst

/-- No two fields on any level have the same name. -/
def Fields.Keyed (ps : Fields) : Prop := (Fields.names ps).Nodup ∧ FieldType.AllKeyed ps

theorem FieldType.allKeyed_iff {ps : Fields} :
    AllKeyed ps ↔ ∀ p ∈ ps, p.2.Keyed := by
  induction ps with
  | nil => simp [AllKeyed]
  | cons p ps ih => obtain ⟨n, t⟩ := p; simp [AllKeyed, ih]

theorem FieldType.size_le_sizeAll {ps : Fields} {p : String × FieldType} (hp : p ∈ ps) :
    p.2.size ≤ sizeAll ps := by
  induction ps with
  | nil => cases hp
  | cons q ps ih =>
    obtain ⟨n, t⟩ := q
    rw [sizeAll]
    rcases List.mem_cons.mp hp with rfl | hp
    · simp
    · have := ih hp
      omega

theorem FieldType.Keyed.subfields {t : FieldType} (h : t.Keyed) : Fields.Keyed t.subfields := by
  obtain ⟨ty, a, ps⟩ := t
  cases ps with
  | none => exact ⟨List.nodup_nil, trivial⟩
  | some ps => exact h

theorem Fields.Keyed.subfields {ps : Fields} (h : Fields.Keyed ps) {p : String × FieldType}
    (hp : p ∈ ps) : Fields.Keyed p.2.subfields :=
  (FieldType.allKeyed_iff.mp h.2 p hp).subfields

/-! ### Mappings -/

mutual

/-- No object in a value has a key twice. -/
def Value.Keyed : Value → Prop
  | .arr vs => Value.AllKeyed vs
  | .obj es => (es.map Prod.fst).Nodup ∧ Value.EntriesKeyed es
  | _ => True

def Value.AllKeyed : List Value → Prop
  | [] => True
  | v :: vs => v.Keyed ∧ Value.AllKeyed vs

def Value.EntriesKeyed : List (String × Value) → Prop
  | [] => True
  | (_, v) :: es => v.Keyed ∧ Value.EntriesKeyed es

end

namespace Mapping

variable {arrays : List String}

/-- The fields that the entries of a block describe: one for each, read from its own mapping. -/
theorem entryTypes_cons {name : String} {v : Value} {es : Entries} {fields : Fields}
    (h : entryTypes arrays ((name, v) :: es) = .ok fields) :
    ∃ mapping sub t rest, v = .obj mapping ∧ subTypes arrays mapping = .ok sub ∧
      entryTypes arrays es = .ok rest ∧ fields = (name, .mk t (arrays.contains name) sub) :: rest := by
  cases v with
  | obj mapping =>
    rw [entryTypes] at h
    obtain ⟨sub, hsub, h⟩ := bind_ok_iff.mp h
    obtain ⟨t, -, h⟩ := bind_ok_iff.mp h
    obtain ⟨rest, hrest, h⟩ := bind_ok_iff.mp h
    exact ⟨mapping, sub, t, rest, rfl, hsub, hrest, (pure_ok_iff.mp h).symm⟩
  | _ => simp [entryTypes] at h

theorem names_entryTypes {es : Entries} {fields : Fields} (h : entryTypes arrays es = .ok fields) :
    Fields.names fields = es.map Prod.fst := by
  induction es generalizing fields with
  | nil =>
    rw [entryTypes] at h
    cases h
    rfl
  | cons e es ih =>
    obtain ⟨-, -, -, rest, -, -, hrest, rfl⟩ := entryTypes_cons h
    rw [Fields.names, List.map_cons, List.map_cons, ← ih hrest]
    rfl

mutual

/-- **The fields of a keyed mapping are keyed.** -/
theorem keyed_of_fieldTypes : ∀ {v : Value} {fields : Fields}, v.Keyed →
    fieldTypes arrays v = .ok fields → Fields.Keyed fields
  | .obj es, fields, hv, h => by
    rw [fieldTypes] at h
    rw [Value.Keyed] at hv
    refine ⟨?_, allKeyed_of_entryTypes hv.2 h⟩
    rw [names_entryTypes h]
    exact hv.1
  | .null, _, _, h | .bool _, _, _, h | .int _, _, _, h | .double _, _, _, h | .str _, _, _, h
  | .arr _, _, _, h => by simp [fieldTypes] at h

theorem allKeyed_of_entryTypes : ∀ {es : Entries} {fields : Fields}, Value.EntriesKeyed es →
    entryTypes arrays es = .ok fields → FieldType.AllKeyed fields
  | [], fields, _, h => by
    rw [entryTypes] at h
    cases h
    trivial
  | (name, v) :: es, fields, hes, h => by
    rw [Value.EntriesKeyed] at hes
    obtain ⟨mapping, sub, t, rest, rfl, hsub, hrest, rfl⟩ := entryTypes_cons h
    rw [Value.Keyed] at hes
    exact ⟨keyed_of_subTypes hes.1.2 hsub, allKeyed_of_entryTypes hes.2 hrest⟩

theorem keyed_of_subTypes {t : String} {a : Bool} : ∀ {es : Entries} {sub : Option Fields},
    Value.EntriesKeyed es → subTypes arrays es = .ok sub → (FieldType.mk t a sub).Keyed
  | [], sub, _, h => by
    rw [subTypes] at h
    cases h
    trivial
  | (key, v) :: es, sub, hes, h => by
    rw [Value.EntriesKeyed] at hes
    rw [subTypes] at h
    split at h
    · obtain ⟨fields, hfields, rfl⟩ := map_ok_iff.mp h
      exact keyed_of_fieldTypes hes.1 hfields
    · exact keyed_of_subTypes hes.2 h

end

end Mapping

/-! ### Catalogs -/

namespace Catalog

/-- No two fields on any level of an index have the same name. -/
def Keyed (c : Catalog) : Prop := ∀ e ∈ c.indices, Fields.Keyed e.2

theorem mem_of_fields {c : Catalog} {index : String} {fields : Fields}
    (h : c.fields index = .ok fields) : (index, fields) ∈ c.indices := by
  unfold Catalog.fields Catalog.fields? at h
  split at h
  · rename_i hl
    cases h
    obtain ⟨before, after, he, -⟩ := List.lookup_eq_some_iff.mp hl
    simp [he]
  · cases h

theorem Keyed.fields {c : Catalog} (hc : c.Keyed) {index : String} {fields : Fields}
    (h : c.fields index = .ok fields) : Fields.Keyed fields :=
  hc _ (mem_of_fields h)

theorem mem_put {index : String} {fields : Fields} {indices : List (String × Fields)}
    {e : String × Fields} (h : e ∈ put index fields indices) : e ∈ indices ∨ e.2 = fields := by
  induction indices with
  | nil => simp_all [put]
  | cons x xs ih =>
    obtain ⟨i, fs⟩ := x
    rw [put] at h
    split at h
    · rcases List.mem_cons.mp h with rfl | h
      · exact .inr rfl
      · exact .inl (List.mem_cons_of_mem _ h)
    · rcases List.mem_cons.mp h with rfl | h
      · exact .inl (List.mem_cons_self ..)
      · exact (ih h).imp_left (List.mem_cons_of_mem _)

theorem Keyed.setIndex {c : Catalog} (hc : c.Keyed) {index : String} {fields : Fields}
    (h : Fields.Keyed fields) : (c.setIndex index fields).Keyed := by
  intro e he
  rcases mem_put he with he | he
  · exact hc e he
  · rw [he]
    exact h

theorem Keyed.addMappings {arrays : ArrayFields} {mappings : List (String × Value)} {c c' : Catalog}
    (hc : c.Keyed) (hm : ∀ m ∈ mappings, m.2.Keyed) (h : addMappings arrays c mappings = .ok c') :
    c'.Keyed := by
  induction mappings generalizing c with
  | nil =>
    cases h
    exact hc
  | cons m rest ih =>
    obtain ⟨fields, hfields, h⟩ := bind_ok_iff.mp h
    have hkeyed := Mapping.keyed_of_fieldTypes (hm m (List.mem_cons_self ..)) hfields
    exact ih (hc.setIndex hkeyed) (fun m hmem => hm m (List.mem_cons_of_mem _ hmem)) h

/-- **A catalog that is read from keyed mappings is keyed.** -/
theorem keyed_ofMappings {arrays : ArrayFields} {mappings : List (String × Value)} {c : Catalog}
    (hm : ∀ m ∈ mappings, m.2.Keyed) (h : ofMappings arrays mappings = .ok c) : c.Keyed := by
  have hnone : Catalog.Keyed ⟨[]⟩ := by simp [Keyed]
  exact hnone.addMappings hm h

end Catalog

end ScopedSearch
