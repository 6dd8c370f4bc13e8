import Mathlib.Data.List.Chain
import Mathlib.Data.List.Permutation
import Mathlib.Order.Lattice.Nat
import ScopedSearch.Proofs.Catalog.Reach
import ScopedSearch.Proofs.Schema.Walk

/-!
# The walk goes by breadth

The walk over the nested fields of an index lists the first field of every name that is free, among the
nested fields of the top level and then those below what it has listed, in the order of the list
(`found_eq_firsts`).  So what it lists comes by distance from the top level (`exists_levels`), and every
turn of it leaves less to walk (`Turn.pending_lt`).  All that is said of one walk stands in
`BreadthFirst`.
-/

namespace ScopedSearch

namespace Nested

variable {index : String} {claims after : List Claim} {fields found news queue : List NestedType}
  {names : List String} {below : Fields}

/-! ### The first field of every name -/

/-- The first field of every name that is not among those given. -/
def firsts : List String → List NestedType → List NestedType
  | _, [] => []
  | names, field :: rest =>
    if field.1 ∈ names then firsts names rest else field :: firsts (field.1 :: names) rest

theorem firsts_congr {names' : List String} (h : ∀ n, n ∈ names ↔ n ∈ names') :
    firsts names fields = firsts names' fields := by
  induction fields generalizing names names' with
  | nil => rfl
  | cons field rest ih =>
    have hcons : ∀ n, n ∈ field.1 :: names ↔ n ∈ field.1 :: names' := by
      intro n
      rw [List.mem_cons, List.mem_cons, h n]
    rw [firsts, firsts, ih h, ih hcons, if_congr (h field.1) rfl rfl]

theorem mem_of_mem_firsts {field : NestedType} (h : field ∈ firsts names fields) :
    field ∈ fields ∧ field.1 ∉ names := by
  induction fields generalizing names with
  | nil => cases h
  | cons other rest ih =>
    rw [firsts] at h
    split at h
    · obtain ⟨hrest, hfree⟩ := ih h
      exact ⟨List.mem_cons_of_mem _ hrest, hfree⟩
    · rename_i hfree
      rcases List.mem_cons.mp h with rfl | h
      · exact ⟨List.mem_cons_self .., hfree⟩
      · obtain ⟨hrest, hnot⟩ := ih h
        exact ⟨List.mem_cons_of_mem _ hrest, fun hin => hnot (List.mem_cons_of_mem _ hin)⟩

theorem nodup_firsts (names : List String) (fields : List NestedType) :
    (namesOf (firsts names fields)).Nodup := by
  induction fields generalizing names with
  | nil => exact List.nodup_nil
  | cons field rest ih =>
    rw [firsts]
    split
    · exact ih names
    · refine List.nodup_cons.mpr ⟨?_, ih _⟩
      intro hmem
      obtain ⟨other, hother, hname⟩ := List.mem_map.mp hmem
      exact (mem_of_mem_firsts hother).2 (by rw [hname]; exact List.mem_cons_self ..)

theorem mem_names_or_firsts {field : NestedType} (h : field ∈ fields) :
    field.1 ∈ names ∨ field.1 ∈ namesOf (firsts names fields) := by
  induction fields generalizing names with
  | nil => cases h
  | cons other rest ih =>
    rw [firsts]
    split
    · rename_i htaken
      rcases List.mem_cons.mp h with rfl | h
      · exact .inl htaken
      · exact ih h
    · rcases List.mem_cons.mp h with rfl | h
      · exact .inr (List.mem_cons_self ..)
      · have hrest : field.1 ∈ other.1 :: names ∨ field.1 ∈ namesOf (firsts (other.1 :: names) rest) := ih h
        rcases hrest with hin | hin
        · rcases List.mem_cons.mp hin with heq | hin
          · exact .inr (by rw [heq]; exact List.mem_cons_self ..)
          · exact .inl hin
        · exact .inr (List.mem_cons_of_mem _ hin)

theorem firsts_append (names : List String) (xs ys : List NestedType) :
    firsts names (xs ++ ys) = firsts names xs ++ firsts (names ++ namesOf (firsts names xs)) ys := by
  induction xs generalizing names with
  | nil => simp [firsts, namesOf]
  | cons field rest ih =>
    rw [List.cons_append, firsts, firsts]
    split
    · exact ih names
    · rw [ih, List.cons_append]
      congr 2
      refine firsts_congr fun n => ?_
      simp only [namesOf, List.map_cons, List.mem_append, List.mem_cons]
      tauto

/-! ### What is listed -/

theorem news_eq_firsts (h : claimAll index fields claims = .ok (news, after)) :
    news = firsts (taken claims) fields := by
  induction fields generalizing claims news with
  | nil =>
    cases h
    rfl
  | cons field rest ih =>
    obtain ⟨isNew, mid, more, hclaim, hrest, rfl⟩ := claimAll_cons h
    rcases claim_cases hclaim with ⟨rfl, hfree, hmid⟩ | ⟨rfl, hmid, c, hc, -⟩
    · have hnot : field.1 ∉ taken claims := claimOf?_eq_none.mp hfree
      have hnames : ∀ n, n ∈ taken mid ↔ n ∈ field.1 :: taken claims := by
        intro n
        simp [hmid, taken, claimBy, or_comm]
      rw [firsts, if_neg hnot, ih hrest, firsts_congr hnames]
      rfl
    · have hin : field.1 ∈ taken claims := by
        obtain ⟨hmem, hname⟩ := claimOf?_eq_some hc
        exact List.mem_map.mpr ⟨c, hmem, hname⟩
      rw [firsts, if_pos hin, ← hmid, ← ih hrest]
      rfl

theorem taken_of_claimAll (h : claimAll index fields claims = .ok (news, after)) :
    taken after = taken claims ++ namesOf news := by
  rw [claims_of_claimAll h]
  simp [taken, namesOf, claimBy]

theorem found_eq_queue_append (h : walk index queue claims = .ok (found, after)) :
    found = queue ++ firsts (taken claims) (found.flatMap fun field => nestedOf field.2) := by
  refine walk_induction (motive := fun queue claims found =>
    found = queue ++ firsts (taken claims) (found.flatMap fun field => nestedOf field.2)) rfl ?_ h
  intro field rest claims news mid more hclaim ih
  rw [taken_of_claimAll hclaim, news_eq_firsts hclaim] at ih
  rw [List.flatMap_cons, firsts_append, ← List.append_assoc, List.cons_append, List.cons_append,
    ← ih]

/-- **What the walk lists**: of the nested fields at the top level, and then of those below what it
lists, in order, the first of every name that is free. -/
theorem found_eq_firsts (h : discover index below claims = .ok (found, after)) :
    found =
      firsts (taken claims) (nestedOf below ++ found.flatMap fun field => nestedOf field.2) := by
  obtain ⟨queue, mid, hclaim, hwalk⟩ := discover_ok h
  have hfound := found_eq_queue_append hwalk
  rw [taken_of_claimAll hclaim, news_eq_firsts hclaim] at hfound
  rw [firsts_append]
  exact hfound

/-- What is listed stands in the queue, or below what is listed before it. -/
theorem origin_of_walk (h : walk index queue claims = .ok (found, after)) :
    ∃ more, found = queue ++ more ∧ ∀ earlier field later, more = earlier ++ field :: later →
      ∃ parent ∈ queue ++ earlier, field ∈ nestedOf parent.2 := by
  refine walk_induction (motive := fun queue _ found => ∃ more, found = queue ++ more ∧
    ∀ earlier field later, more = earlier ++ field :: later →
      ∃ parent ∈ queue ++ earlier, field ∈ nestedOf parent.2) ⟨[], rfl, by simp⟩ ?_ h
  rintro first rest claims news mid _ hclaim ⟨more, rfl, ih⟩
  refine ⟨news ++ more, by simp, ?_⟩
  intro earlier field later hsplit
  rcases List.append_eq_append_iff.mp hsplit with ⟨front, rfl, hmore⟩ | ⟨back, hnews, htail⟩
  · -- the field is listed after what is new now
    obtain ⟨parent, hparent, hfield⟩ := ih front field later hmore
    refine ⟨parent, ?_, hfield⟩
    simp only [List.mem_append, List.mem_cons] at hparent ⊢
    tauto
  · cases back with
    | nil =>
      obtain ⟨parent, hparent, hfield⟩ := ih [] field later (by simpa using htail.symm)
      refine ⟨parent, ?_, hfield⟩
      simp only [hnews, List.mem_append, List.mem_cons, List.append_nil] at hparent ⊢
      tauto
    | cons other back =>
      obtain ⟨rfl, -⟩ := List.cons.inj htail
      have hmem : field ∈ news := by simp [hnews]
      exact ⟨first, by simp, subset_of_claimAll hclaim field hmem⟩

/-- **What is listed** is a nested field of the top level, or one below what is listed before it. -/
theorem origin_of_discover (h : discover index below claims = .ok (found, after))
    {earlier later : List NestedType} {field : NestedType} (hsplit : found = earlier ++ field :: later) :
    field ∈ nestedOf below ∨ ∃ parent ∈ earlier, field ∈ nestedOf parent.2 := by
  obtain ⟨queue, mid, hclaim, hwalk⟩ := discover_ok h
  obtain ⟨more, rfl, horigin⟩ := origin_of_walk hwalk
  rcases List.append_eq_append_iff.mp hsplit with ⟨front, rfl, hmore⟩ | ⟨back, hqueue, htail⟩
  · exact .inr (horigin front field later hmore)
  · cases back with
    | nil =>
      obtain ⟨parent, hparent, hfield⟩ := horigin [] field later (by simpa using htail.symm)
      rw [List.append_nil, hqueue, List.append_nil] at hparent
      exact .inr ⟨parent, hparent, hfield⟩
    | cons other back =>
      obtain ⟨rfl, -⟩ := List.cons.inj htail
      have hmem : field ∈ queue := by simp [hqueue]
      exact .inl (subset_of_claimAll hclaim field hmem)

/-! ### Levels -/

/-- Names have levels: those in the queue do not fall, and no name that is taken is more than one level
below the queue. -/
structure Levelled (queue : List NestedType) (claims : List Claim) (level : String → ℕ) : Prop where
  queued : ∀ field ∈ queue, field.1 ∈ taken claims
  ascending : queue.Pairwise fun e f => level e.1 ≤ level f.1
  near : ∀ n ∈ taken claims, ∀ field ∈ queue, level n ≤ level field.1 + 1

/-- The levels after a turn of the walk: what is new is one level below its parent. -/
def levelAfter (level : String → ℕ) (field : NestedType) (news : List NestedType) (n : String) : ℕ :=
  if n ∈ namesOf news then level field.1 + 1 else level n

theorem levelAfter_of_taken {level : String → ℕ} {field : NestedType} {n : String}
    (hnews : news = firsts (taken claims) fields) (hn : n ∈ taken claims) :
    levelAfter level field news n = level n := by
  refine if_neg fun hin => ?_
  rw [hnews] at hin
  obtain ⟨other, hother, rfl⟩ := List.mem_map.mp hin
  exact (mem_of_mem_firsts hother).2 hn

theorem levelAfter_of_new {level : String → ℕ} {field new : NestedType} (hnew : new ∈ news) :
    levelAfter level field news new.1 = level field.1 + 1 :=
  if_pos (List.mem_map_of_mem hnew)

/-- **What one turn does to the levels**: the queue keeps its order. -/
theorem Levelled.turn {field : NestedType} {rest : List NestedType} {mid : List Claim}
    {level : String → ℕ} (h : Levelled (field :: rest) claims level)
    (hclaim : claimAll index (nestedOf field.2) claims = .ok (news, mid)) :
    Levelled (rest ++ news) mid (levelAfter level field news) := by
  have hnews := news_eq_firsts hclaim
  have htaken := taken_of_claimAll hclaim
  have hold : ∀ n ∈ taken claims, levelAfter level field news n = level n := fun n hn =>
    levelAfter_of_taken hnews hn
  have hnew : ∀ f ∈ news, levelAfter level field news f.1 = level field.1 + 1 := fun f hf =>
    levelAfter_of_new hf
  obtain ⟨hfield, hrest⟩ := List.forall_mem_cons.mp h.queued
  obtain ⟨hfirst, hsorted⟩ := List.pairwise_cons.mp h.ascending
  refine ⟨?_, ?_, ?_⟩
  · intro f hf
    rw [htaken]
    rcases List.mem_append.mp hf with hf | hf
    · exact List.mem_append_left _ (hrest f hf)
    · exact List.mem_append_right _ (List.mem_map_of_mem hf)
  · refine List.pairwise_append.mpr ⟨?_, ?_, ?_⟩
    · refine hsorted.imp_of_mem fun {e f} he hf hle => ?_
      rw [hold _ (hrest e he), hold _ (hrest f hf)]
      exact hle
    · refine List.pairwise_of_forall_mem_list fun e he f hf => ?_
      rw [hnew e he, hnew f hf]
    · intro e he f hf
      rw [hold _ (hrest e he), hnew f hf]
      exact h.near e.1 (hrest e he) field (List.mem_cons_self ..)
  · intro n hn f hf
    -- names and queue are old or new, and nothing new is more than one level below the old queue
    have hlow : level field.1 ≤ levelAfter level field news f.1 := by
      rcases List.mem_append.mp hf with hf | hf
      · rw [hold _ (hrest f hf)]
        exact hfirst f hf
      · rw [hnew f hf]
        omega
    have hhigh : levelAfter level field news n ≤ level field.1 + 1 := by
      rw [htaken] at hn
      rcases List.mem_append.mp hn with hn | hn
      · rw [hold n hn]
        exact h.near n hn field (List.mem_cons_self ..)
      · obtain ⟨g, hg, rfl⟩ := List.mem_map.mp hn
        exact (hnew g hg).le
    omega

/-- How the levels of what is listed ought to be, from a queue and the levels of its names. -/
structure Descends (queue : List NestedType) (claims : List Claim) (level : String → ℕ)
    (found : List NestedType) (level' : String → ℕ) : Prop where
  kept : ∀ n ∈ taken claims, level' n = level n
  ascending : found.Pairwise fun e f => level' e.1 ≤ level' f.1
  bounded : ∀ m, (∀ field ∈ queue, m ≤ level field.1) → ∀ field ∈ found, m ≤ level' field.1
  closed : ∀ parent ∈ found, ∀ sub ∈ nestedOf parent.2, level' sub.1 ≤ level' parent.1 + 1
  from_parent : ∀ field ∈ found, field ∈ queue ∨
    ∃ parent ∈ found, field ∈ nestedOf parent.2 ∧ level' field.1 = level' parent.1 + 1

theorem Descends.turn {field : NestedType} {rest more : List NestedType} {mid : List Claim}
    {level level' : String → ℕ} (hlevel : Levelled (field :: rest) claims level)
    (hclaim : claimAll index (nestedOf field.2) claims = .ok (news, mid))
    (h : Descends (rest ++ news) mid (levelAfter level field news) more level') :
    Descends (field :: rest) claims level (field :: more) level' := by
  have hnews := news_eq_firsts hclaim
  have htaken := taken_of_claimAll hclaim
  obtain ⟨hfield, hrest⟩ := List.forall_mem_cons.mp hlevel.queued
  obtain ⟨hfirst, -⟩ := List.pairwise_cons.mp hlevel.ascending
  have hkept : ∀ n ∈ taken claims, level' n = level n := by
    intro n hn
    have hmid : n ∈ taken mid := by
      rw [htaken]
      exact List.mem_append_left _ hn
    rw [h.kept n hmid, levelAfter_of_taken hnews hn]
  have hnew : ∀ f ∈ news, level' f.1 = level field.1 + 1 := by
    intro f hf
    have hmid : f.1 ∈ taken mid := by
      rw [htaken]
      exact List.mem_append_right _ (List.mem_map_of_mem hf)
    rw [h.kept f.1 hmid, levelAfter_of_new hf]
  have hbelow : ∀ m, m ≤ level field.1 → ∀ f ∈ more, m ≤ level' f.1 := by
    intro m hm
    refine h.bounded m fun f hf => ?_
    rcases List.mem_append.mp hf with hf | hf
    · rw [levelAfter_of_taken hnews (hrest f hf)]
      exact hm.trans (hfirst f hf)
    · rw [levelAfter_of_new hf]
      omega
  refine ⟨hkept, ?_, ?_, ?_, ?_⟩
  · refine List.pairwise_cons.mpr ⟨fun f hf => ?_, h.ascending⟩
    rw [hkept _ hfield]
    exact hbelow _ le_rfl f hf
  · intro m hm f hf
    have hmfield : m ≤ level field.1 := hm field (List.mem_cons_self ..)
    rcases List.mem_cons.mp hf with rfl | hf
    · rw [hkept _ hfield]
      exact hmfield
    · exact hbelow m hmfield f hf
  · refine List.forall_mem_cons.mpr ⟨fun sub hsub => ?_, h.closed⟩
    rw [hkept _ hfield]
    have hfirst : sub.1 ∈ taken claims ∨ sub.1 ∈ namesOf (firsts (taken claims) (nestedOf field.2)) :=
      mem_names_or_firsts hsub
    rcases hfirst with hin | hin
    · rw [hkept _ hin]
      exact hlevel.near sub.1 hin field (List.mem_cons_self ..)
    · rw [← hnews] at hin
      obtain ⟨g, hg, hname⟩ := List.mem_map.mp hin
      rw [← hname]
      exact (hnew g hg).le
  · refine List.forall_mem_cons.mpr ⟨.inl (List.mem_cons_self ..), fun f hf => ?_⟩
    rcases h.from_parent f hf with hq | ⟨parent, hparent, hsub, hlev⟩
    · rcases List.mem_append.mp hq with hq | hq
      · exact .inl (List.mem_cons_of_mem _ hq)
      · refine .inr ⟨field, List.mem_cons_self .., subset_of_claimAll hclaim f hq, ?_⟩
        rw [hnew f hq, hkept _ hfield]
    · exact .inr ⟨parent, List.mem_cons_of_mem _ hparent, hsub, hlev⟩

/-- **What a walk lists has levels that never fall**: by induction along the walk. -/
theorem exists_levels (h : walk index queue claims = .ok (found, after)) {level : String → ℕ}
    (hlevel : Levelled queue claims level) : ∃ level', Descends queue claims level found level' := by
  refine walk_induction (motive := fun queue claims found => ∀ level, Levelled queue claims level →
    ∃ level', Descends queue claims level found level') ?_ ?_ h level hlevel
  · intro level _
    exact ⟨level, by simp, by simp, by simp, by simp, by simp⟩
  · intro field rest claims news mid more hclaim ih level hlevel
    obtain ⟨level', hmore⟩ := ih _ (hlevel.turn hclaim)
    exact ⟨level', Descends.turn hlevel hclaim hmore⟩

/-! ### Distance -/

/-- A nested field is reached from the top level in so many steps, each from a field that is listed to
one below it. -/
inductive Reached (below : Fields) (found : List NestedType) : ℕ → NestedType → Prop where
  | top {field : NestedType} : field ∈ nestedOf below → Reached below found 0 field
  | down {n : ℕ} {parent field : NestedType} : Reached below found n parent → parent ∈ found →
      field ∈ nestedOf parent.2 → Reached below found (n + 1) field

/-- The distance of a name from the top level: the least number of steps in which a nested field of this
name is reached. -/
noncomputable def distance (below : Fields) (found : List NestedType) (name : String) : ℕ :=
  sInf {n | ∃ field : NestedType, field.1 = name ∧ Reached below found n field}

/-- The levels of what is listed are its distances. -/
theorem exists_distances (h : discover index below claims = .ok (found, after)) :
    ∃ level : String → ℕ, (found.Pairwise fun e f => level e.1 ≤ level f.1) ∧
      (∀ n field, Reached below found n field → level field.1 ≤ n) ∧
      ∀ field ∈ found, Reached below found (level field.1) field := by
  obtain ⟨queue, mid, hclaim, hwalk⟩ := discover_ok h
  have hqueue := news_eq_firsts hclaim
  have htaken := taken_of_claimAll hclaim
  have hqueued : ∀ field ∈ queue, field.1 ∈ taken mid := by
    intro field hfield
    rw [htaken]
    exact List.mem_append_right _ (List.mem_map_of_mem hfield)
  -- all that is taken before the walk is at the top
  have hstart : Levelled queue mid fun _ => 0 :=
    ⟨hqueued, List.pairwise_of_forall_mem_list fun _ _ _ _ => le_rfl, by simp⟩
  obtain ⟨level, hlevel⟩ := exists_levels hwalk hstart
  refine ⟨level, hlevel.ascending, ?_, ?_⟩
  · intro n field hreached
    induction hreached with
    | @top field htop =>
      have hmid : field.1 ∈ taken mid := by
        rw [htaken, hqueue]
        exact List.mem_append.mpr (mem_names_or_firsts htop)
      exact (hlevel.kept _ hmid).le
    | @down n parent field _ hparent hsub ih =>
      have hstep := hlevel.closed parent hparent field hsub
      omega
  · intro field hfield
    induction hn : level field.1 using Nat.strong_induction_on generalizing field with
    | _ n ih =>
    rcases hlevel.from_parent field hfield with hq | ⟨parent, hparent, hsub, hlev⟩
    · have hzero : level field.1 = 0 := hlevel.kept _ (hqueued field hq)
      rw [← hn, hzero]
      exact .top (subset_of_claimAll hclaim field hq)
    · have hbefore := ih (level parent.1) (by omega) parent hparent rfl
      rw [← hn, hlev]
      exact .down hbefore hparent hsub

theorem distance_eq {level : String → ℕ} {field : NestedType}
    (hleast : ∀ n field, Reached below found n field → level field.1 ≤ n)
    (hreached : Reached below found (level field.1) field) :
    distance below found field.1 = level field.1 := by
  refine le_antisymm (Nat.sInf_le ⟨field, rfl, hreached⟩) ?_
  obtain ⟨other, hname, hother⟩ := Nat.sInf_mem
    (s := {n | ∃ other : NestedType, other.1 = field.1 ∧ Reached below found n other})
    ⟨_, field, rfl, hreached⟩
  have hle := hleast _ other hother
  rw [hname] at hle
  exact hle

/-! ### The turns of the walk -/

/-- One turn of the walk: the first field leaves the queue, and what is new below it joins. -/
inductive Turn (index : String) :
    List NestedType × List Claim → List NestedType × List Claim → Prop where
  | take {field : NestedType} {rest news : List NestedType} {claims mid : List Claim} :
      claimAll index (nestedOf field.2) claims = .ok (news, mid) →
      Turn index (field :: rest, claims) (rest ++ news, mid)

theorem Turn.walk_eq {s t : List NestedType × List Claim} (h : Turn index s t) :
    ∃ field, walk index s.1 s.2 = (walk index t.1 t.2).map fun r => (field :: r.1, r.2) := by
  obtain ⟨hclaim⟩ := h
  rename_i field rest news claims mid
  refine ⟨field, ?_⟩
  simp only [walk_step, hclaim, bind, Except.bind]
  cases walk index (rest ++ news) mid <;> rfl

theorem Turn.pending_lt {s t : List NestedType × List Claim} (h : Turn index s t) :
    pending t.1 < pending s.1 := by
  obtain ⟨hclaim⟩ := h
  rename_i field rest news claims mid
  obtain ⟨name, fields⟩ := field
  have hnews := pending_claimAll hclaim
  have hbelow := pending_nestedOf fields
  simp only [pending_append, pending] at hnews ⊢
  omega

theorem length_le_pending {s : List NestedType × List Claim}
    {states : List (List NestedType × List Claim)} (h : (s :: states).IsChain (Turn index)) :
    states.length ≤ pending s.1 := by
  induction states generalizing s with
  | nil => simp
  | cons t states ih =>
    obtain ⟨hturn, hrest⟩ := List.isChain_cons_cons.mp h
    have hless := hturn.pending_lt
    have hmore := ih hrest
    rw [List.length_cons]
    omega

/-! ### All of the walk -/

/-- What a walk over the nested fields of an index lists, and the claims after it. -/
structure BreadthFirst (index : String) (below : Fields) (claims : List Claim)
    (found : List NestedType) (after : List Claim) : Prop where
  /-- No name is listed twice. -/
  nodup : (namesOf found).Nodup
  /-- No name that is listed was taken before. -/
  fresh : ∀ field ∈ found, field.1 ∉ taken claims
  /-- What is listed is a nested field at the top level, or one below what is listed before it. -/
  origin : ∀ earlier field later, found = earlier ++ field :: later →
    field ∈ nestedOf below ∨ ∃ parent ∈ earlier, field ∈ nestedOf parent.2
  /-- Every nested field at the top level, and every one below what is listed, has its name taken. -/
  complete : ∀ field, (field ∈ nestedOf below ∨ ∃ parent ∈ found, field ∈ nestedOf parent.2) →
    field.1 ∈ namesOf found ∨ field.1 ∈ taken claims
  /-- What is listed comes by distance from the top level. -/
  ascending : found.Pairwise fun e f => distance below found e.1 ≤ distance below found f.1
  /-- What is listed lies at its distance itself. -/
  attained : ∀ field ∈ found, Reached below found (distance below found field.1) field
  /-- What is listed comes in the order of the catalog, at the top level and below each field. -/
  inOrder : found =
    firsts (taken claims) (nestedOf below ++ found.flatMap fun field => nestedOf field.2)
  /-- The index takes the names that are listed, with the fields below them; all other claims stay. -/
  claimed : after = claims ++ found.map (claimBy index)

/-- **The walk goes by breadth.**  When it ends well it lists what it ought to list.  It goes turn by
turn, and whether it ends well or not it takes at most as many turns as there are fields. -/
theorem discover_breadthFirst (index : String) (below : Fields) (claims : List Claim) :
    (∀ found after, discover index below claims = .ok (found, after) →
      BreadthFirst index below claims found after) ∧
    (∀ s t, Turn index s t →
      ∃ field, walk index s.1 s.2 = (walk index t.1 t.2).map fun r => (field :: r.1, r.2)) ∧
    ∀ queue mid, claimAll index (nestedOf below) claims = .ok (queue, mid) →
      ∀ states, ((queue, mid) :: states).IsChain (Turn index) →
        states.length ≤ FieldType.sizeAll below := by
  refine ⟨?_, fun _ _ => Turn.walk_eq, ?_⟩
  · intro found after h
    have hfound := found_eq_firsts h
    obtain ⟨level, hascending, hleast, hreached⟩ := exists_distances h
    have hdistance : ∀ field ∈ found, distance below found field.1 = level field.1 :=
      fun field hfield => distance_eq hleast (hreached field hfield)
    refine ⟨?_, ?_, fun _ _ _ => origin_of_discover h, ?_, ?_, ?_, hfound, claims_of_discover h⟩
    · rw [hfound]
      exact nodup_firsts _ _
    · intro field hfield
      rw [hfound] at hfield
      exact (mem_of_mem_firsts hfield).2
    · intro field hfield
      have hmem : field ∈ nestedOf below ++ found.flatMap fun field => nestedOf field.2 := by
        simpa [List.mem_append, List.mem_flatMap] using hfield
      rw [or_comm, hfound]
      exact mem_names_or_firsts hmem
    · refine hascending.imp_of_mem fun {e f} he hf hle => ?_
      rw [hdistance e he, hdistance f hf]
      exact hle
    · intro field hfield
      rw [hdistance field hfield]
      exact hreached field hfield
  · intro queue mid hclaim states hturns
    calc states.length ≤ pending queue := length_le_pending hturns
      _ ≤ pending (nestedOf below) := pending_claimAll hclaim
      _ ≤ FieldType.sizeAll below := pending_nestedOf below

def recursive : NestedType :=
  ("a", [("a", .mk "nested" false (some [("x", .mk "keyword" false none)])),
    ("c", .mk "nested" false none)])

/-- A field with two fields below it, of which one is below the other field too. -/
def sharing : NestedType := ("d", [("c", .mk "nested" false none), ("b", .mk "nested" false none)])

def recurring : Fields :=
  [(recursive.1, .mk "nested" false (some recursive.2)), (sharing.1, .mk "nested" false (some sharing.2))]

/-- The name `b` is taken by another index. -/
theorem discover_breadthFirst_of_recurring :
    discover "i" recurring [⟨"b", "j", []⟩] = .ok ([recursive, sharing, ("c", [])],
      [⟨"b", "j", []⟩, claimBy "i" recursive, claimBy "i" sharing, claimBy "i" ("c", [])]) ∧
    BreadthFirst "i" recurring [⟨"b", "j", []⟩] [recursive, sharing, ("c", [])]
      [⟨"b", "j", []⟩, claimBy "i" recursive, claimBy "i" sharing, claimBy "i" ("c", [])] := by
  have hfound : discover "i" recurring [⟨"b", "j", []⟩] = .ok ([recursive, sharing, ("c", [])],
      [⟨"b", "j", []⟩, claimBy "i" recursive, claimBy "i" sharing, claimBy "i" ("c", [])]) := by
    cbv
  exact ⟨hfound, (discover_breadthFirst "i" recurring _).1 _ _ hfound⟩

end Nested

end ScopedSearch
