import ScopedSearch.Schema.Nested
import ScopedSearch.Proofs.Catalog.Keyed

/-!
# The walk over nested fields

What the walk puts out is exactly what it takes up, in the same order, and no name is taken up twice
(`claims_of_discover`, `nodup_of_discover`).  Everything that is put out is a nested field of the index,
at some depth, so a property that passes to the nested fields below holds for all of it
(`forall_of_discover`).
-/

namespace ScopedSearch

namespace Nested

variable {index : String} {claims after : List Claim} {fields found news : List NestedType}

def taken (claims : List Claim) : List String := claims.map Claim.name

def namesOf (fields : List NestedType) : List String := fields.map Prod.fst

/-! ### Taking up -/

theorem claimOf?_eq_none {name : String} : claimOf? claims name = none ↔ name ∉ taken claims := by
  simp [claimOf?, taken]

def claimBy (index : String) (field : NestedType) : Claim := ⟨field.1, index, field.2⟩

theorem claimOf?_eq_some {name : String} {c : Claim} (h : claimOf? claims name = some c) :
    c ∈ claims ∧ c.name = name := by
  have hname := List.find?_some h
  exact ⟨List.mem_of_find?_eq_some h, by simpa using hname⟩

/-- A field is new when its name was free, and then its claim is the last.  Otherwise the name is taken
by the index itself, or with the same fields below. -/
theorem claim_cases {field : NestedType} {isNew : Bool}
    (h : claim index field claims = .ok (isNew, after)) :
    (isNew = true ∧ claimOf? claims field.1 = none ∧ after = claims ++ [claimBy index field]) ∨
      (isNew = false ∧ after = claims ∧ ∃ c, claimOf? claims field.1 = some c ∧
        (c.owner = index ∨ FieldType.eqvFields c.fields field.2 = true)) := by
  unfold claim at h
  split at h
  · rename_i hfree
    cases h
    exact .inl ⟨rfl, hfree, rfl⟩
  · rename_i c hc
    split at h
    · cases h
    · rename_i hsame
      cases h
      refine .inr ⟨rfl, rfl, c, hc, ?_⟩
      by_cases howner : c.owner = index
      · exact .inl howner
      · simpa [howner] using hsame

theorem claimAll_cons {field : NestedType} {rest : List NestedType}
    (h : claimAll index (field :: rest) claims = .ok (news, after)) :
    ∃ isNew mid more, claim index field claims = .ok (isNew, mid) ∧
      claimAll index rest mid = .ok (more, after) ∧
      news = if isNew then field :: more else more := by
  rw [claimAll] at h
  obtain ⟨⟨isNew, mid⟩, hclaim, h⟩ := bind_ok_iff.mp h
  obtain ⟨⟨more, last⟩, hrest, h⟩ := bind_ok_iff.mp h
  cases h
  exact ⟨isNew, mid, more, hclaim, hrest, rfl⟩

theorem claims_of_claimAll (h : claimAll index fields claims = .ok (news, after)) :
    after = claims ++ news.map (claimBy index) := by
  induction fields generalizing claims news with
  | nil =>
    cases h
    simp
  | cons field rest ih =>
    obtain ⟨isNew, mid, more, hclaim, hrest, rfl⟩ := claimAll_cons h
    rcases claim_cases hclaim with ⟨rfl, -, hmid⟩ | ⟨rfl, rfl, -⟩
    · rw [ih hrest, hmid]
      simp
    · exact ih hrest

theorem nodup_of_claimAll (hc : (taken claims).Nodup)
    (h : claimAll index fields claims = .ok (news, after)) : (taken after).Nodup := by
  induction fields generalizing claims news with
  | nil =>
    cases h
    exact hc
  | cons field rest ih =>
    obtain ⟨isNew, mid, more, hclaim, hrest, rfl⟩ := claimAll_cons h
    rcases claim_cases hclaim with ⟨-, hfree, hmid⟩ | ⟨-, rfl, -⟩
    · refine ih ?_ hrest
      rw [hmid, taken, List.map_append, List.nodup_append]
      refine ⟨hc, List.nodup_singleton _, ?_⟩
      rintro name hname _ hlast rfl
      rw [List.map_singleton, List.mem_singleton] at hlast
      subst hlast
      exact claimOf?_eq_none.mp hfree hname
    · exact ih hc hrest

theorem subset_of_claimAll (h : claimAll index fields claims = .ok (news, after)) :
    ∀ field ∈ news, field ∈ fields := by
  induction fields generalizing claims news with
  | nil =>
    cases h
    simp
  | cons field rest ih =>
    obtain ⟨isNew, mid, more, hclaim, hrest, rfl⟩ := claimAll_cons h
    intro other hother
    cases isNew with
    | false => exact List.mem_cons_of_mem _ (ih hrest other hother)
    | true =>
      rcases List.mem_cons.mp hother with rfl | hother
      · exact List.mem_cons_self ..
      · exact List.mem_cons_of_mem _ (ih hrest other hother)

/-! ### Walking -/

/-- One step of the walk: the first field is put out, and what is new below it joins the queue. -/
theorem walk_step (field : NestedType) (rest : List NestedType) (claims : List Claim) :
    walk index (field :: rest) claims = (do
      let (news, mid) ← claimAll index (nestedOf field.2) claims
      let (more, after) ← walk index (rest ++ news) mid
      return (field :: more, after)) := by
  rw [walk]
  split
  · rename_i hclaim
    rw [hclaim]
    rfl
  · rename_i hclaim
    rw [hclaim]
    rfl

theorem walk_cons {field : NestedType} {rest : List NestedType}
    (h : walk index (field :: rest) claims = .ok (found, after)) :
    ∃ news mid more, claimAll index (nestedOf field.2) claims = .ok (news, mid) ∧
      walk index (rest ++ news) mid = .ok (more, after) ∧ found = field :: more := by
  rw [walk_step] at h
  obtain ⟨⟨news, mid⟩, hclaim, h⟩ := bind_ok_iff.mp h
  obtain ⟨⟨more, last⟩, hmore, h⟩ := bind_ok_iff.mp h
  cases h
  exact ⟨news, mid, more, hclaim, hmore, rfl⟩

/-- The induction along a walk that ends well: from the queue after a step to the queue before it. -/
theorem walk_induction {motive : List NestedType → List Claim → List NestedType → Prop}
    (nil : motive [] after [])
    (cons : ∀ field rest claims news mid more,
      claimAll index (nestedOf field.2) claims = .ok (news, mid) →
      motive (rest ++ news) mid more → motive (field :: rest) claims (field :: more))
    {queue : List NestedType} (h : walk index queue claims = .ok (found, after)) :
    motive queue claims found := by
  induction queue, claims using walk.induct index generalizing found with
  | case1 claims =>
    rw [walk] at h
    cases h
    exact nil
  | case2 claims field rest f hf =>
    obtain ⟨news, mid, more, hclaim, -⟩ := walk_cons h
    rw [hf] at hclaim
    cases hclaim
  | case3 claims field rest news mid hclaim ih =>
    obtain ⟨news', mid', more, hclaim', hmore, rfl⟩ := walk_cons h
    rw [hclaim] at hclaim'
    cases hclaim'
    exact cons field rest claims news mid more hclaim (ih hmore)

theorem claims_of_walk {queue : List NestedType} (h : walk index queue claims = .ok (found, after)) :
    ∃ more, found = queue ++ more ∧ after = claims ++ more.map (claimBy index) := by
  refine walk_induction (motive := fun queue claims found => ∃ more, found = queue ++ more ∧
    after = claims ++ more.map (claimBy index)) ⟨[], by simp⟩ ?_ h
  -- what a step takes up joins the queue, in front of what later steps take up
  rintro field rest claims news mid _ hclaim ⟨more, rfl, hafter⟩
  refine ⟨news ++ more, by simp, ?_⟩
  rw [hafter, claims_of_claimAll hclaim, List.map_append, List.append_assoc]

theorem nodup_of_walk {queue : List NestedType} (hc : (taken claims).Nodup)
    (h : walk index queue claims = .ok (found, after)) : (taken after).Nodup := by
  refine walk_induction (motive := fun _ claims _ => (taken claims).Nodup → (taken after).Nodup)
    id ?_ h hc
  intro field rest claims news mid more hclaim ih hc
  exact ih (nodup_of_claimAll hc hclaim)

/-- What the walk puts out has a property that its queue has and that passes to the nested fields
below. -/
theorem forall_of_walk {P : NestedType → Prop} (hP : ∀ field, P field → ∀ sub ∈ nestedOf field.2, P sub)
    {queue : List NestedType} (hq : ∀ field ∈ queue, P field)
    (h : walk index queue claims = .ok (found, after)) : ∀ field ∈ found, P field := by
  refine walk_induction (motive := fun queue _ found => (∀ field ∈ queue, P field) →
    ∀ field ∈ found, P field) (fun _ => by simp) ?_ h hq
  intro field rest claims news mid more hclaim ih hq
  have hfield : P field := hq field (List.mem_cons_self ..)
  refine List.forall_mem_cons.mpr ⟨hfield, ih fun other hother => ?_⟩
  rcases List.mem_append.mp hother with hother | hother
  · exact hq other (List.mem_cons_of_mem _ hother)
  · exact hP field hfield other (subset_of_claimAll hclaim other hother)

/-! ### An index -/

variable {below : Fields}

theorem discover_ok (h : discover index below claims = .ok (found, after)) :
    ∃ queue mid, claimAll index (nestedOf below) claims = .ok (queue, mid) ∧
      walk index queue mid = .ok (found, after) := by
  obtain ⟨⟨queue, mid⟩, hclaim, h⟩ := bind_ok_iff.mp h
  exact ⟨queue, mid, hclaim, h⟩

/-- **What is found is what is taken up**, in the same order. -/
theorem claims_of_discover (h : discover index below claims = .ok (found, after)) :
    after = claims ++ found.map (claimBy index) := by
  obtain ⟨queue, mid, hclaim, hwalk⟩ := discover_ok h
  obtain ⟨more, rfl, hafter⟩ := claims_of_walk hwalk
  rw [hafter, claims_of_claimAll hclaim, List.map_append, List.append_assoc]

theorem taken_of_discover (h : discover index below claims = .ok (found, after)) :
    taken after = taken claims ++ namesOf found := by
  rw [claims_of_discover h]
  simp [taken, namesOf, claimBy]

/-- **No name is taken up twice**, by one index or by several. -/
theorem nodup_of_discover (hc : (taken claims).Nodup)
    (h : discover index below claims = .ok (found, after)) : (taken after).Nodup := by
  obtain ⟨queue, mid, hclaim, hwalk⟩ := discover_ok h
  exact nodup_of_walk (nodup_of_claimAll hc hclaim) hwalk

/-- A property that the nested fields at the top level have and that passes to those below holds for
all that is found. -/
theorem forall_of_discover {P : NestedType → Prop}
    (hP : ∀ field, P field → ∀ sub ∈ nestedOf field.2, P sub) (hb : ∀ sub ∈ nestedOf below, P sub)
    (h : discover index below claims = .ok (found, after)) : ∀ field ∈ found, P field := by
  obtain ⟨queue, mid, hclaim, hwalk⟩ := discover_ok h
  have hqueue : ∀ field ∈ queue, P field := by
    intro field hfield
    exact hb field (subset_of_claimAll hclaim field hfield)
  exact forall_of_walk hP hqueue hwalk

theorem keyed_of_mem_nestedOf {fields : Fields} (h : Fields.Keyed fields) {field : NestedType}
    (hf : field ∈ nestedOf fields) : Fields.Keyed field.2 := by
  obtain ⟨p, hp, rfl⟩ := List.mem_map.mp hf
  exact h.subfields (List.mem_filter.mp hp).1

end Nested

end ScopedSearch
