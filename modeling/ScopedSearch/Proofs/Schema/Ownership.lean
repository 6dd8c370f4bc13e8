import ScopedSearch.Proofs.Schema.Walk

/-!
# Who owns a name

When the walk over an index ends well, every nested field that it meets is settled: its name is taken
by the index itself, or with the same fields (`settled_of_discover`).  It does end well when no claim
opposes a nested field of the index (`exists_discover`), and all that can go wrong is a conflict
(`kind_of_discover`).
-/

namespace ScopedSearch

namespace Nested

variable {index : String} {claims after more : List Claim} {fields found news : List NestedType}
  {field : NestedType} {f : Failure}

/-! ### Settled fields -/

/-- The name of a nested field is taken, by its index or with the same fields. -/
def Settled (index : String) (claims : List Claim) (field : NestedType) : Prop :=
  ∃ c ∈ claims, c.name = field.1 ∧ (c.owner = index ∨ FieldType.eqvFields c.fields field.2 = true)

theorem Settled.append (h : Settled index claims field) (more : List Claim) :
    Settled index (claims ++ more) field := by
  obtain ⟨c, hc, hname, hsame⟩ := h
  exact ⟨c, List.mem_append_left _ hc, hname, hsame⟩

theorem settled_of_claim {isNew : Bool} (h : claim index field claims = .ok (isNew, after)) :
    Settled index after field := by
  rcases claim_cases h with ⟨-, -, rfl⟩ | ⟨-, rfl, c, hc, hsame⟩
  · exact ⟨claimBy index field, by simp, rfl, .inl rfl⟩
  · obtain ⟨hmem, hname⟩ := claimOf?_eq_some hc
    exact ⟨c, hmem, hname, hsame⟩

theorem settled_of_claimAll (h : claimAll index fields claims = .ok (news, after)) :
    ∀ field ∈ fields, Settled index after field := by
  induction fields generalizing claims news with
  | nil => simp
  | cons field rest ih =>
    obtain ⟨isNew, mid, more, hclaim, hrest, rfl⟩ := claimAll_cons h
    refine List.forall_mem_cons.mpr ⟨?_, ih hrest⟩
    rw [claims_of_claimAll hrest]
    exact (settled_of_claim hclaim).append _

theorem settled_of_walk {queue : List NestedType} (h : walk index queue claims = .ok (found, after)) :
    ∀ field ∈ found, ∀ sub ∈ nestedOf field.2, Settled index after sub := by
  -- the claims after a step are among those after the walk
  refine (walk_induction (motive := fun _ claims found => (∃ more, after = claims ++ more) ∧
    ∀ field ∈ found, ∀ sub ∈ nestedOf field.2, Settled index after sub)
    ⟨⟨[], by simp⟩, by simp⟩ ?_ h).2
  rintro field rest claims news mid found hclaim ⟨⟨more, rfl⟩, ih⟩
  refine ⟨⟨news.map (claimBy index) ++ more, ?_⟩, List.forall_mem_cons.mpr ⟨?_, ih⟩⟩
  · rw [claims_of_claimAll hclaim, List.append_assoc]
  · intro sub hsub
    exact (settled_of_claimAll hclaim sub hsub).append more

/-- **Every nested field that an index meets is settled**, at its top level and below what is found. -/
theorem settled_of_discover {below : Fields} (h : discover index below claims = .ok (found, after)) :
    (∀ sub ∈ nestedOf below, Settled index after sub) ∧
      ∀ field ∈ found, ∀ sub ∈ nestedOf field.2, Settled index after sub := by
  obtain ⟨queue, mid, hclaim, hwalk⟩ := discover_ok h
  refine ⟨?_, settled_of_walk hwalk⟩
  intro sub hsub
  obtain ⟨more, -, rfl⟩ := claims_of_walk hwalk
  exact (settled_of_claimAll hclaim sub hsub).append _

/-! ### Success -/

/-- No claim of another index gives the name of a nested field to other fields. -/
def Unopposed (index : String) (claims : List Claim) (field : NestedType) : Prop :=
  ∀ c ∈ claims, c.name = field.1 → c.owner = index ∨ FieldType.eqvFields c.fields field.2 = true

theorem Unopposed.append (h : Unopposed index claims field) (own : List NestedType) :
    Unopposed index (claims ++ own.map (claimBy index)) field := by
  intro c hc hname
  rcases List.mem_append.mp hc with hc | hc
  · exact h c hc hname
  · obtain ⟨g, -, rfl⟩ := List.mem_map.mp hc
    exact .inl rfl

theorem exists_claim (h : Unopposed index claims field) :
    ∃ isNew after, claim index field claims = .ok (isNew, after) := by
  unfold claim
  split
  · exact ⟨_, _, rfl⟩
  · rename_i c hc
    obtain ⟨hmem, hname⟩ := claimOf?_eq_some hc
    have hsame := h c hmem hname
    rw [if_neg]
    · exact ⟨_, _, rfl⟩
    · rcases hsame with howner | hfields
      · simp [howner]
      · simp [hfields]

theorem exists_claimAll (h : ∀ field ∈ fields, Unopposed index claims field) :
    ∃ news after, claimAll index fields claims = .ok (news, after) := by
  induction fields generalizing claims with
  | nil => exact ⟨[], claims, rfl⟩
  | cons field rest ih =>
    obtain ⟨hfield, hrest⟩ := List.forall_mem_cons.mp h
    obtain ⟨isNew, mid, hclaim⟩ := exists_claim hfield
    have hmid : ∀ other ∈ rest, Unopposed index mid other := by
      intro other hother
      rcases claim_cases hclaim with ⟨-, -, rfl⟩ | ⟨-, rfl, -⟩
      · exact (hrest other hother).append [field]
      · exact hrest other hother
    obtain ⟨news, after, hnews⟩ := ih hmid
    refine ⟨if isNew then field :: news else news, after, ?_⟩
    rw [claimAll, hclaim]
    simp only [bind, Except.bind, hnews]
    rfl

/-- The walk ends well when nothing opposes its queue, nor what has a property that the queue has and
that passes to the nested fields below. -/
theorem exists_walk {P : NestedType → Prop} (hP : ∀ field, P field → ∀ sub ∈ nestedOf field.2, P sub)
    {queue : List NestedType} (hq : ∀ field ∈ queue, P field)
    (hc : ∀ field, P field → Unopposed index claims field) :
    ∃ found after, walk index queue claims = .ok (found, after) := by
  induction queue, claims using walk.induct index with
  | case1 claims => exact ⟨[], claims, by rw [walk]⟩
  | case2 claims field rest f hf =>
    have hfield := hP field (hq field (List.mem_cons_self ..))
    obtain ⟨news, after, hnews⟩ := exists_claimAll fun sub hsub => hc sub (hfield sub hsub)
    rw [hf] at hnews
    cases hnews
  | case3 claims field rest news mid hclaim ih =>
    have hfield := hP field (hq field (List.mem_cons_self ..))
    have hqueue : ∀ other ∈ rest ++ news, P other := by
      intro other hother
      rcases List.mem_append.mp hother with hother | hother
      · exact hq other (List.mem_cons_of_mem _ hother)
      · exact hfield other (subset_of_claimAll hclaim other hother)
    have hmid : ∀ other, P other → Unopposed index mid other := by
      intro other hother
      rw [claims_of_claimAll hclaim]
      exact (hc other hother).append news
    obtain ⟨found, after, hmore⟩ := ih hqueue hmid
    refine ⟨field :: found, after, ?_⟩
    rw [walk_step, hclaim]
    simp only [bind, Except.bind, hmore]
    rfl

/-- **The walk over an index ends well when no claim opposes its nested fields.** -/
theorem exists_discover {P : NestedType → Prop} {below : Fields}
    (hP : ∀ field, P field → ∀ sub ∈ nestedOf field.2, P sub) (hb : ∀ sub ∈ nestedOf below, P sub)
    (hc : ∀ field, P field → Unopposed index claims field) :
    ∃ found after, discover index below claims = .ok (found, after) := by
  obtain ⟨queue, mid, hclaim⟩ := exists_claimAll fun sub hsub => hc sub (hb sub hsub)
  have hqueue : ∀ field ∈ queue, P field := by
    intro field hfield
    exact hb field (subset_of_claimAll hclaim field hfield)
  have hmid : ∀ field, P field → Unopposed index mid field := by
    intro field hfield
    rw [claims_of_claimAll hclaim]
    exact (hc field hfield).append queue
  obtain ⟨found, after, hwalk⟩ := exists_walk hP hqueue hmid
  refine ⟨found, after, ?_⟩
  rw [discover, hclaim]
  exact hwalk

/-! ### Failure -/

theorem kind_of_claim (h : claim index field claims = .error f) : f.kind = .schema := by
  unfold claim at h
  split at h
  · cases h
  · split at h
    · cases h
      rfl
    · cases h

theorem kind_of_claimAll (h : claimAll index fields claims = .error f) : f.kind = .schema := by
  induction fields generalizing claims with
  | nil => cases h
  | cons field rest ih =>
    rw [claimAll] at h
    rcases bind_error_iff.mp h with h | ⟨⟨isNew, mid⟩, -, h⟩
    · exact kind_of_claim h
    · rcases bind_error_iff.mp h with h | ⟨r, -, h⟩
      · exact ih h
      · cases h

theorem kind_of_walk {queue : List NestedType} (h : walk index queue claims = .error f) :
    f.kind = .schema := by
  induction queue, claims using walk.induct index with
  | case1 claims =>
    rw [walk] at h
    cases h
  | case2 claims field rest g hg =>
    rw [walk_step, hg] at h
    cases h
    exact kind_of_claimAll hg
  | case3 claims field rest news mid hclaim ih =>
    rw [walk_step] at h
    rcases bind_error_iff.mp h with h | ⟨r, hr, h⟩
    · exact kind_of_claimAll h
    · rw [hclaim, Except.ok.injEq] at hr
      subst hr
      rcases bind_error_iff.mp h with h | ⟨s, -, h⟩
      · exact ih h
      · cases h

theorem kind_of_discover {below : Fields} (h : discover index below claims = .error f) :
    f.kind = .schema := by
  rcases bind_error_iff.mp h with h | ⟨r, -, h⟩
  · exact kind_of_claimAll h
  · exact kind_of_walk h

end Nested

end ScopedSearch
