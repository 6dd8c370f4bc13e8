import ScopedSearch.Schema.Generate
import ScopedSearch.Proofs.Catalog.Equality
import ScopedSearch.Proofs.Catalog.Reach
import ScopedSearch.Proofs.Schema.Ownership

/-!
# The claims of all indices

What the claims are when all indices are walked (`claimsAfter_ok`): every claim is on a nested field of
its owner, and every nested field that the walk meets is settled.  The walk ends well when the indices
are compatible (`exists_claimsAfter`).  When each of them is coherent too, every nested field of theirs,
met or not, has a claim with the same fields (`Claimed.exists_of_nested`).
-/

namespace ScopedSearch

namespace Schema

open Nested (claimBy nestedOf Settled Unopposed taken)

variable {catalog : Catalog} {config : IndexConfig} {configs : List IndexConfig}
  {claims after own : List Claim}

/-! ### Agreement -/

/-- Nested fields of one name have the same fields below them. -/
def Agree (xs ys : List NestedType) : Prop :=
  ∀ x ∈ xs, ∀ y ∈ ys, x.1 = y.1 → FieldType.eqvFields x.2 y.2 = true

instance (xs ys : List NestedType) : Decidable (Agree xs ys) :=
  inferInstanceAs (Decidable (∀ _ ∈ _, _))

/-- Two different indices have no two nested fields of one name with different fields. -/
def Compatible (catalog : Catalog) (configs : List IndexConfig) : Prop :=
  ∀ c ∈ configs, ∀ d ∈ configs, c.index ≠ d.index →
    Agree (catalog.nested c.index) (catalog.nested d.index)

/-- No index has two nested fields of one name with different fields. -/
def Coherent (catalog : Catalog) (configs : List IndexConfig) : Prop :=
  ∀ c ∈ configs, Agree (catalog.nested c.index) (catalog.nested c.index)

instance (catalog : Catalog) (configs : List IndexConfig) : Decidable (Compatible catalog configs) :=
  inferInstanceAs (Decidable (∀ _ ∈ _, _))

instance (catalog : Catalog) (configs : List IndexConfig) : Decidable (Coherent catalog configs) :=
  inferInstanceAs (Decidable (∀ _ ∈ _, _))

theorem agree_of_coherent (hcoh : Coherent catalog configs) (hcom : Compatible catalog configs)
    {c d : IndexConfig} (hc : c ∈ configs) (hd : d ∈ configs) :
    Agree (catalog.nested c.index) (catalog.nested d.index) := by
  by_cases h : c.index = d.index
  · rw [← h]
    exact hcoh c hc
  · exact hcom c hc d hd h

/-! ### Walking all indices -/

def claimsAfter (catalog : Catalog) : List IndexConfig → List Claim → Except Failure (List Claim)
  | [], claims => .ok claims
  | config :: rest, claims => do
    let fields ← catalog.fields config.index
    let (_, claims) ← Nested.discover config.index fields claims
    claimsAfter catalog rest claims

theorem claimsAfter_cons (h : claimsAfter catalog (config :: configs) claims = .ok after) :
    ∃ found mid, catalog.Knows config.index ∧
      Nested.discover config.index (catalog.top config.index) claims = .ok (found, mid) ∧
      claimsAfter catalog configs mid = .ok after := by
  rw [claimsAfter] at h
  obtain ⟨fields, hfields, h⟩ := bind_ok_iff.mp h
  obtain ⟨hknown, rfl⟩ := Catalog.fields_ok_iff.mp hfields
  obtain ⟨⟨found, mid⟩, hfound, h⟩ := bind_ok_iff.mp h
  exact ⟨found, mid, hknown, hfound, h⟩

/-- The claims that some indices add to those there are. -/
structure Claimed (catalog : Catalog) (configs : List IndexConfig) (claims own : List Claim) :
    Prop where
  known : ∀ config ∈ configs, catalog.Knows config.index
  /-- A claim is on a nested field of its owner. -/
  owned : ∀ c ∈ own, ∃ config ∈ configs, c.owner = config.index ∧
    (c.name, c.fields) ∈ catalog.nested config.index
  /-- Nested fields at the top level of an index are settled. -/
  top : ∀ config ∈ configs, ∀ sub ∈ nestedOf (catalog.top config.index),
    Settled config.index (claims ++ own) sub
  /-- Nested fields below what is taken up are settled. -/
  below : ∀ c ∈ own, ∀ sub ∈ nestedOf c.fields, Settled c.owner (claims ++ own) sub

theorem mem_nested_of_discover {found : List NestedType} {mid : List Claim} {index : String}
    (h : Nested.discover index (catalog.top index) claims = .ok (found, mid)) :
    ∀ field ∈ found, field ∈ catalog.nested index :=
  Nested.forall_of_discover (P := fun field => field ∈ catalog.nested index)
    (fun _ hfield _ hsub => Nested.mem_within_below hfield hsub)
    (fun _ hsub => Nested.mem_within_of_mem hsub) h

/-- **Every claim is on a nested field of its owner, and what is met is settled.** -/
theorem claimsAfter_ok (h : claimsAfter catalog configs claims = .ok after) :
    ∃ own, after = claims ++ own ∧ Claimed catalog configs claims own := by
  induction configs generalizing claims with
  | nil =>
    cases h
    exact ⟨[], by simp, by constructor <;> simp⟩
  | cons config configs ih =>
    obtain ⟨found, mid, hknown, hfound, hrest⟩ := claimsAfter_cons h
    obtain ⟨own, rfl, hown⟩ := ih hrest
    obtain ⟨htop, hbelow⟩ := Nested.settled_of_discover hfound
    have hreach := mem_nested_of_discover hfound
    obtain rfl := Nested.claims_of_discover hfound
    refine ⟨found.map (claimBy config.index) ++ own, by rw [List.append_assoc], ?_⟩
    refine
      { known := List.forall_mem_cons.mpr ⟨hknown, hown.known⟩
        owned := List.forall_mem_append.mpr ⟨?_, ?_⟩
        top := List.forall_mem_cons.mpr ⟨?_, ?_⟩
        below := List.forall_mem_append.mpr ⟨?_, ?_⟩ }
    · intro c hc
      obtain ⟨field, hfield, rfl⟩ := List.mem_map.mp hc
      exact ⟨config, List.mem_cons_self .., rfl, hreach field hfield⟩
    · intro c hc
      obtain ⟨other, hother, howner⟩ := hown.owned c hc
      exact ⟨other, List.mem_cons_of_mem _ hother, howner⟩
    · intro sub hsub
      rw [← List.append_assoc]
      exact (htop sub hsub).append own
    · rw [← List.append_assoc]
      exact hown.top
    · intro c hc sub hsub
      obtain ⟨field, hfield, rfl⟩ := List.mem_map.mp hc
      rw [← List.append_assoc]
      exact (hbelow field hfield sub hsub).append own
    · rw [← List.append_assoc]
      exact hown.below

theorem claimsAfter_cons_append (h : claimsAfter catalog (config :: configs) claims = .ok (claims ++ own)) :
    ∃ found more, catalog.Knows config.index ∧
      Nested.discover config.index (catalog.top config.index) claims =
        .ok (found, claims ++ found.map (claimBy config.index)) ∧
      claimsAfter catalog configs (claims ++ found.map (claimBy config.index)) =
        .ok (claims ++ found.map (claimBy config.index) ++ more) ∧
      own = found.map (claimBy config.index) ++ more := by
  obtain ⟨found, mid, hknown, hfound, hrest⟩ := claimsAfter_cons h
  obtain ⟨more, hmore, -⟩ := claimsAfter_ok hrest
  obtain rfl := Nested.claims_of_discover hfound
  rw [List.append_assoc, List.append_cancel_left_eq] at hmore
  subst hmore
  exact ⟨found, more, hknown, hfound, by rw [hrest, List.append_assoc], rfl⟩

theorem nodup_of_claimsAfter (hc : (taken claims).Nodup)
    (h : claimsAfter catalog configs claims = .ok after) : (taken after).Nodup := by
  induction configs generalizing claims with
  | nil =>
    cases h
    exact hc
  | cons config configs ih =>
    obtain ⟨found, mid, -, hfound, hrest⟩ := claimsAfter_cons h
    exact ih (Nested.nodup_of_discover hc hfound) hrest

/-- From the beginning there are no claims but those of the indices, and no two on one name. -/
theorem claimed_of_claimsAfter (h : claimsAfter catalog configs [] = .ok own) :
    Claimed catalog configs [] own ∧ (own.map Claim.name).Nodup := by
  obtain ⟨own', howns, hown⟩ := claimsAfter_ok h
  obtain rfl : own = own' := howns
  exact ⟨hown, nodup_of_claimsAfter (by simp [taken]) h⟩

/-- **Compatible indices are walked well**, when no claim opposes their nested fields. -/
theorem exists_claimsAfter (hknown : ∀ config ∈ configs, catalog.Knows config.index)
    (hcom : Compatible catalog configs)
    (hc : ∀ config ∈ configs, ∀ field ∈ catalog.nested config.index,
      Unopposed config.index claims field) :
    ∃ after, claimsAfter catalog configs claims = .ok after := by
  induction configs generalizing claims with
  | nil => exact ⟨claims, rfl⟩
  | cons config configs ih =>
    obtain ⟨hknows, hknown⟩ := List.forall_mem_cons.mp hknown
    obtain ⟨hown, hothers⟩ := List.forall_mem_cons.mp hc
    obtain ⟨found, mid, hfound⟩ := Nested.exists_discover
      (P := fun field => field ∈ catalog.nested config.index)
      (fun field hfield sub hsub => Nested.mem_within_below hfield hsub)
      (fun sub hsub => Nested.mem_within_of_mem hsub) hown
    have hreach := mem_nested_of_discover hfound
    have hmid : ∀ other ∈ configs, ∀ field ∈ catalog.nested other.index,
        Unopposed other.index mid field := by
      rw [Nested.claims_of_discover hfound]
      intro other hother field hfield c hmem hname
      rcases List.mem_append.mp hmem with hmem | hmem
      · exact hothers other hother field hfield c hmem hname
      · -- a claim of the index that was just walked
        obtain ⟨taken, htaken, rfl⟩ := List.mem_map.mp hmem
        by_cases hindex : config.index = other.index
        · exact .inl hindex
        · exact .inr (hcom config (List.mem_cons_self ..) other (List.mem_cons_of_mem _ hother) hindex
            taken (hreach taken htaken) field hfield hname)
    have hrest : Compatible catalog configs := fun c hc d hd =>
      hcom c (List.mem_cons_of_mem _ hc) d (List.mem_cons_of_mem _ hd)
    obtain ⟨after, hafter⟩ := ih hknown hrest hmid
    refine ⟨after, ?_⟩
    rw [claimsAfter, Catalog.fields_ok_iff.mpr ⟨hknows, rfl⟩]
    simp only [bind, Except.bind, hfound]
    exact hafter

/-! ### Nested fields that are not met -/

theorem exists_nestedOf_of_eqvFields {ps qs : Fields} (h : FieldType.eqvFields ps qs = true)
    {f : NestedType} (hf : f ∈ nestedOf ps) :
    ∃ g ∈ nestedOf qs, g.1 = f.1 ∧ FieldType.eqvFields f.2 g.2 = true := by
  obtain ⟨p, hp, hn, rfl⟩ := Nested.mem_nestedOf.mp hf
  obtain ⟨q, hq, hname, hpq⟩ := FieldType.exists_of_eqvFields h hp
  obtain ⟨htype, -, -, hbelow⟩ := FieldType.eqv_iff.mp hpq
  have hqn : q.2.isNested = true := by
    rw [FieldType.isNested, ← htype]
    exact hn
  exact ⟨(q.1, q.2.subfields), Nested.mem_nestedOf.mpr ⟨q, hq, hqn, rfl⟩, hname, hbelow⟩

namespace Claimed

theorem keyed (h : Claimed catalog configs claims own) (hk : catalog.Keyed) {c : Claim}
    (hc : c ∈ own) : Fields.Keyed c.fields := by
  obtain ⟨config, -, -, hmem⟩ := h.owned c hc
  exact Nested.keyed_of_within (hk.top config.index) hmem

/-- In a coherent index, what is settled has a claim with the same fields. -/
theorem exists_of_settled (h : Claimed catalog configs [] own) (hcoh : Coherent catalog configs)
    {index : String} {field : NestedType} (hfield : field ∈ catalog.nested index)
    (hs : Settled index own field) :
    ∃ c ∈ own, c.name = field.1 ∧ FieldType.eqvFields c.fields field.2 = true := by
  obtain ⟨c, hc, hname, hsame⟩ := hs
  refine ⟨c, hc, hname, ?_⟩
  rcases hsame with rfl | hsame
  · obtain ⟨config, hconfig, howner, hmem⟩ := h.owned c hc
    rw [howner] at hfield
    exact hcoh config hconfig _ hmem field hfield hname
  · exact hsame

/-- **In coherent indices, every nested field has a claim with the same fields**, whether or not the
walk met it. -/
theorem exists_of_nested (h : Claimed catalog configs [] own) (hk : catalog.Keyed)
    (hcoh : Coherent catalog configs) (hconfig : config ∈ configs) :
    ∀ field ∈ catalog.nested config.index,
      ∃ c ∈ own, c.name = field.1 ∧ FieldType.eqvFields c.fields field.2 = true := by
  apply Nested.within_induction
  · intro field hfield
    exact h.exists_of_settled hcoh (Nested.mem_within_of_mem hfield) (h.top config hconfig field hfield)
  · rintro field hfield ⟨c, hc, -, hsame⟩ sub hsub
    have hkfield : Fields.Keyed field.2 := Nested.keyed_of_within (hk.top config.index) hfield
    -- what lies below the claim in place of `sub` was met
    obtain ⟨met, hmet, hname, hsubmet⟩ :=
      exists_nestedOf_of_eqvFields (FieldType.eqvFields_symm (h.keyed hk hc) hkfield hsame) hsub
    obtain ⟨owner, -, howner, hcmem⟩ := h.owned c hc
    have hmetmem : met ∈ catalog.nested c.owner := by
      rw [howner]
      exact Nested.mem_within_below hcmem hmet
    obtain ⟨d, hd, hdname, hdmet⟩ := h.exists_of_settled hcoh hmetmem (h.below c hc met hmet)
    have hmetsub : FieldType.eqvFields met.2 sub.2 = true :=
      FieldType.eqvFields_symm (Nested.keyed_of_mem_nestedOf hkfield hsub)
        (Nested.keyed_of_mem_nestedOf (h.keyed hk hc) hmet) hsubmet
    exact ⟨d, hd, hdname.trans hname, FieldType.eqvFields_trans hdmet hmetsub⟩

end Claimed

end Schema

end ScopedSearch
