import ScopedSearch.Catalog.Basic
import ScopedSearch.Schema.Nested
import ScopedSearch.Proofs.Catalog.Keyed

/-!
# Fields within reach

The fields of an index that are reached from its top level through nested fields, at any depth: they
are the least fields that hold the top level and, with a nested field, the fields below it
(`mem_reached_of_mem`, `mem_reached_below`, `reached_induction`).
-/

namespace ScopedSearch

mutual

/-- The fields that are reached below a field: none, unless it is nested. -/
def FieldType.reachedBelow : FieldType → List (String × FieldType)
  | .mk _ _ none => []
  | .mk t _ (some ps) => if t == "nested" then Fields.reached ps else []

/-- The fields that are reached from some fields: each of them, and what is reached below it. -/
def Fields.reached : List (String × FieldType) → List (String × FieldType)
  | [] => []
  | (n, t) :: ps => (n, t) :: (t.reachedBelow ++ Fields.reached ps)

end

theorem FieldType.reachedBelow_eq (t : FieldType) :
    t.reachedBelow = if t.isNested then Fields.reached t.subfields else [] := by
  obtain ⟨ty, a, ps⟩ := t
  cases ps with
  | none => simp [reachedBelow, isNested, esType, subfields, properties?, Fields.reached]
  | some ps => simp [reachedBelow, isNested, esType, subfields, properties?]

namespace Fields

variable {ps : Fields} {p q : String × FieldType}

theorem mem_reached : p ∈ reached ps ↔
    p ∈ ps ∨ ∃ q ∈ ps, q.2.isNested = true ∧ p ∈ reached q.2.subfields := by
  induction ps with
  | nil => simp [reached]
  | cons r ps ih =>
    obtain ⟨n, t⟩ := r
    rw [reached, List.mem_cons, List.mem_append, ih, FieldType.reachedBelow_eq]
    by_cases ht : t.isNested = true <;> simp [ht] <;> tauto

theorem mem_reached_of_mem (h : p ∈ ps) : p ∈ reached ps := mem_reached.mpr (.inl h)

/-- What is below a nested field that is reached is reached. -/
theorem mem_reached_below (hq : q ∈ reached ps) (hn : q.2.isNested = true) (hp : p ∈ q.2.subfields) :
    p ∈ reached ps := by
  induction h : FieldType.sizeAll ps using Nat.strongRecOn generalizing ps with
  | _ n ih =>
    subst h
    rcases mem_reached.mp hq with hq | ⟨r, hr, hrn, hq⟩
    · exact mem_reached.mpr (.inr ⟨q, hq, hn, mem_reached_of_mem hp⟩)
    · have hle := FieldType.size_le_sizeAll hr
      have hsize := FieldType.size_eq r.2
      have hbelow : p ∈ reached r.2.subfields := ih _ (by omega) hq rfl
      exact mem_reached.mpr (.inr ⟨r, hr, hrn, hbelow⟩)

/-- Within reach is only what the top level has and what passes from a nested field to those below. -/
theorem reached_least {P : String × FieldType → Prop} (top : ∀ p ∈ ps, P p)
    (below : ∀ q, P q → q.2.isNested = true → ∀ p ∈ q.2.subfields, P p) :
    ∀ p ∈ reached ps, P p := by
  induction h : FieldType.sizeAll ps using Nat.strongRecOn generalizing ps with
  | _ n ih =>
    subst h
    intro p hp
    rcases mem_reached.mp hp with hp | ⟨r, hr, hrn, hp⟩
    · exact top p hp
    · have hle := FieldType.size_le_sizeAll hr
      have hsize := FieldType.size_eq r.2
      exact ih _ (by omega) (below r (top r hr) hrn) rfl p hp

/-- The induction along the way to a field. -/
theorem reached_induction {P : String × FieldType → Prop} (top : ∀ p ∈ ps, P p)
    (below : ∀ q ∈ reached ps, P q → q.2.isNested = true → ∀ p ∈ q.2.subfields, P p) :
    ∀ p ∈ reached ps, P p := by
  have hall : ∀ p ∈ reached ps, p ∈ reached ps ∧ P p := by
    apply reached_least
    · intro p hp
      exact ⟨mem_reached_of_mem hp, top p hp⟩
    · rintro q ⟨hq, hP⟩ hn p hp
      exact ⟨mem_reached_below hq hn hp, below q hq hP hn p hp⟩
  intro p hp
  exact (hall p hp).2

theorem Keyed.of_mem_reached (h : Keyed ps) (hp : p ∈ reached ps) : Keyed p.2.subfields := by
  refine reached_induction (P := fun p => Keyed p.2.subfields) (fun p hp => h.subfields hp) ?_ p hp
  intro q _ hq _ p hp
  exact hq.subfields hp

end Fields

/-! ### Nested fields within reach -/

namespace Nested

/-- The nested fields that are reached from some fields. -/
def within (ps : Fields) : List NestedType := nestedOf (Fields.reached ps)

variable {ps : Fields} {f g : NestedType}

theorem mem_nestedOf : f ∈ nestedOf ps ↔ ∃ p ∈ ps, p.2.isNested = true ∧ (p.1, p.2.subfields) = f := by
  simp [nestedOf, and_assoc]

theorem mem_within_of_mem (h : f ∈ nestedOf ps) : f ∈ within ps := by
  obtain ⟨p, hp, hn, rfl⟩ := mem_nestedOf.mp h
  exact mem_nestedOf.mpr ⟨p, Fields.mem_reached_of_mem hp, hn, rfl⟩

theorem mem_reached_of_within (hf : f ∈ within ps) {p : String × FieldType} (hp : p ∈ f.2) :
    p ∈ Fields.reached ps := by
  obtain ⟨q, hq, hn, rfl⟩ := mem_nestedOf.mp hf
  exact Fields.mem_reached_below hq hn hp

/-- A field that is reached is at the top level or below a nested field within reach. -/
theorem mem_reached_iff {p : String × FieldType} :
    p ∈ Fields.reached ps ↔ p ∈ ps ∨ ∃ f ∈ within ps, p ∈ f.2 := by
  constructor
  · revert p
    apply Fields.reached_induction
    · intro p hp
      exact .inl hp
    · intro q hq _ hn p hp
      exact .inr ⟨(q.1, q.2.subfields), mem_nestedOf.mpr ⟨q, hq, hn, rfl⟩, hp⟩
  · rintro (hp | ⟨f, hf, hp⟩)
    · exact Fields.mem_reached_of_mem hp
    · exact mem_reached_of_within hf hp

theorem mem_within_below (hf : f ∈ within ps) (hg : g ∈ nestedOf f.2) : g ∈ within ps := by
  obtain ⟨p, hp, hn, rfl⟩ := mem_nestedOf.mp hg
  exact mem_nestedOf.mpr ⟨p, mem_reached_of_within hf hp, hn, rfl⟩

/-- What the nested fields at the top level have and passes to those below holds within reach. -/
theorem within_induction {P : NestedType → Prop} (top : ∀ f ∈ nestedOf ps, P f)
    (below : ∀ f ∈ within ps, P f → ∀ g ∈ nestedOf f.2, P g) : ∀ f ∈ within ps, P f := by
  have hall : ∀ p ∈ Fields.reached ps, p.2.isNested = true → P (p.1, p.2.subfields) := by
    apply Fields.reached_induction
    · intro p hp hn
      exact top _ (mem_nestedOf.mpr ⟨p, hp, hn, rfl⟩)
    · intro q hq hP hqn p hp hn
      exact below _ (mem_nestedOf.mpr ⟨q, hq, hqn, rfl⟩) (hP hqn) _ (mem_nestedOf.mpr ⟨p, hp, hn, rfl⟩)
  intro f hf
  obtain ⟨p, hp, hn, rfl⟩ := mem_nestedOf.mp hf
  exact hall p hp hn

theorem keyed_of_within (h : Fields.Keyed ps) (hf : f ∈ within ps) : Fields.Keyed f.2 := by
  obtain ⟨p, hp, -, rfl⟩ := mem_nestedOf.mp hf
  exact h.of_mem_reached hp

end Nested

/-! ### Indices -/

namespace Catalog

/-- The top level of an index; an index that is not known has none. -/
def top (c : Catalog) (index : String) : Fields := (c.fields? index).getD []

/-- Whether an index is known. -/
def Knows (c : Catalog) (index : String) : Prop := (c.fields? index).isSome = true

instance (c : Catalog) (index : String) : Decidable (c.Knows index) :=
  inferInstanceAs (Decidable (_ = true))

variable {c : Catalog} {index : String} {fields : Fields} {f : Failure}

theorem fields_ok_iff : c.fields index = .ok fields ↔ c.Knows index ∧ fields = c.top index := by
  unfold Catalog.fields Knows top
  cases c.fields? index <;> simp [eq_comm]

/-- The nested fields of an index, at any depth. -/
def nested (c : Catalog) (index : String) : List NestedType := Nested.within (c.top index)

theorem Keyed.top (hc : c.Keyed) (index : String) : Fields.Keyed (c.top index) := by
  by_cases hk : c.Knows index
  · exact hc.fields (fields_ok_iff.mpr ⟨hk, rfl⟩)
  · have hnone : c.fields? index = none := by simpa [Knows] using hk
    simp [Catalog.top, hnone, Fields.Keyed, Fields.names, FieldType.AllKeyed]

end Catalog

end ScopedSearch
