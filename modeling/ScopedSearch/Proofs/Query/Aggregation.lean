import ScopedSearch.Query.Aggregation
import ScopedSearch.Proofs.Query.Compile

/-!
# The scope of aggregations

The filter of an aggregation is exact: it matches the documents that the authorization filter matches
and the caller's filter admits, when the conditions on the field itself are replaced as asked
(`aggregation_scope_exact`).  Leaving out the second authorization filter is sound because of
`holds_of_requires`: a filter that goes through a condition on the field, on a path of conjunctions
from the root, cannot hold unless what stands for that condition does.
-/

namespace ScopedSearch

universe u

variable {δ : Type u}

def Wire.femaleOrAdult : Wire :=
  .json (.obj [("OR", .arr [.obj [("=", .obj [("gender", .str "f")])],
    .obj [(">=", .obj [("age", .int 20)])]])])

def Wire.ownResources : Wire :=
  .json (.obj [("in", .obj [("resource", .arr [.str "/a", .str "/b"])])])

/-! ### Filters that go through a field -/

namespace Expr

variable {field : String}

mutual

theorem conditions_ne_nil_of_requires : ∀ {e : Expr}, e.requires field = true → e.conditions ≠ []
  | .leaf l, _ => by simp [conditions]
  | .group .all parts, h => by
    rw [requires] at h
    rw [conditions]
    exact conditionsAll_ne_nil_of_requires h
  | .group .any parts, h => by simp [requires] at h

theorem conditionsAll_ne_nil_of_requires : ∀ {es : List Expr},
    requiresOne field es = true → conditionsAll es ≠ []
  | [], h => by simp [requiresOne] at h
  | e :: es, h => by
    simp only [requiresOne, Bool.or_eq_true] at h
    simp only [conditionsAll, ne_eq, List.append_eq_nil_iff, not_and]
    intro he hes
    rcases h with h | h
    · exact conditions_ne_nil_of_requires h he
    · exact conditionsAll_ne_nil_of_requires h hes

end

variable {sat : Condition → Prop} {P : Prop}

mutual

theorem holds_of_requires (hP : ∀ l : Condition, l.field = field → sat l → P) :
    ∀ {e : Expr}, e.requires field = true → e.Holds sat → P
  | .leaf l, h, hold => by
    simp only [requires, beq_iff_eq] at h
    exact hP l h hold
  | .group .all parts, h, hold => by
    rw [requires] at h
    rw [Holds] at hold
    exact joins_of_requires hP h hold
  | .group .any parts, h, _ => by simp [requires] at h

theorem joins_of_requires (hP : ∀ l : Condition, l.field = field → sat l → P) :
    ∀ {es : List Expr}, requiresOne field es = true →
      Connective.all.Joins (verdicts sat es) → P
  | [], h, _ => by simp [requiresOne] at h
  | e :: es, h, hold => by
    simp only [requiresOne, Bool.or_eq_true] at h
    rw [verdicts] at hold
    rcases h with h | h
    · -- the part that goes through the field has a condition, so it counts
      have he := conditions_ne_nil_of_requires h
      rw [if_neg (by simpa using he), Connective.joins_all_cons] at hold
      exact holds_of_requires hP h hold.1
    · refine joins_of_requires hP h ?_
      split at hold
      · exact hold
      · exact (Connective.joins_all_cons.mp hold).2

end

end Expr

/-! ### Replaced conditions -/

/-- What a condition grants when those on a field are replaced by a query, unless the field's own
filter counts. -/
def Reading.GrantsReplaced (I : Reading δ) (d : δ) (target : String) (filterSelf : Bool)
    (query : Value) (l : Condition) : Prop :=
  if filterSelf = false ∧ l.field = target then query.Matches I d else I.Grants d l

namespace Lexicon

variable {lex : Lexicon} {target : String} {filterSelf : Bool} {A : Fragment}

theorem excludedField_eq_some {l : Condition} :
    excludedField (some target) filterSelf = some l.field ↔ filterSelf = false ∧ l.field = target := by
  cases filterSelf <;> simp [excludedField, eq_comm]

theorem kept_leafExcept :
    Expr.Kept (lex.leafExcept (excludedField (some target) filterSelf) (.ok (some A))) := by
  intro l f h
  unfold leafExcept at h
  split at h
  · cases h; simp
  · exact kept_ownLeaf l f h

theorem faithful_leafExcept (I : Reading δ) (d : δ) :
    Expr.Faithful I d (I.GrantsReplaced d target filterSelf A.toValue)
      (lex.leafExcept (excludedField (some target) filterSelf) (.ok (some A))) := by
  intro l g h
  unfold leafExcept at h
  unfold Reading.GrantsReplaced
  split at h
  · rename_i hl
    cases h
    rw [if_pos (excludedField_eq_some.mp hl), Fragment.matches_toValue]
  · rename_i hl
    rw [if_neg fun hl' => hl (excludedField_eq_some.mpr hl')]
    exact faithful_ownLeaf I d l g h

end Lexicon

/-! ### Joining the two fragments -/

/-- The plain way to scope a caller's query: always join it to the authorization. -/
def joinAlways (auth : Value) : Option Value → Value
  | none => auth
  | some client => .obj [("bool", .obj [("must", .arr [client, auth])])]

theorem joinAlways_matches {I : Reading δ} {d : δ} {A : Fragment} {client : Option Fragment} :
    (joinAlways A.toValue (client.map Fragment.toValue)).Matches I d ↔
      A.Matches I d ∧ Fragment.Matches? I d client := by
  cases client with
  | none => simp [joinAlways, Fragment.matches_toValue, Fragment.Matches?]
  | some C =>
    rw [Option.map_some, joinAlways]
    refine Value.matches_must.trans ?_
    simp [Fragment.matches_toValue, Fragment.Matches?, and_comm]

theorem joinScope_isSome (covered : Bool) (client : Option Fragment) (A : Fragment) :
    ∃ R, joinScope covered client (some A) = some R := by
  cases client with
  | none => exact ⟨A, rfl⟩
  | some C =>
    rw [joinScope]
    split
    · exact ⟨C, rfl⟩
    · exact ⟨_, rfl⟩

/-- Leaving out the authorization is sound when the caller's fragment is equal to it or cannot match
without it. -/
theorem joinScope_matches {I : Reading δ} (hI : I.Coherent) (d : δ) {covered : Bool}
    {client : Option Fragment} {A R : Fragment}
    (hcov : covered = true → ∀ C, client = some C → C.Matches I d → A.Matches I d)
    (h : joinScope covered client (some A) = some R) :
    R.Matches I d ↔ A.Matches I d ∧ Fragment.Matches? I d client := by
  cases client with
  | none =>
    cases h
    simp [Fragment.Matches?]
  | some C =>
    rw [joinScope] at h
    split at h
    · rename_i hc
      obtain rfl := Option.some.inj h
      have himplied : C.Matches I d → A.Matches I d := by
        rcases Bool.or_eq_true_iff.mp hc with heq | hc
        · exact (Fragment.matches_of_eqv hI d heq).mpr
        · exact hcov hc C rfl
      exact (and_iff_right_of_imp himplied).symm
    · cases h
      rw [Fragment.matches_all_pair, and_comm, Fragment.Matches?]

/-! ### The filter of an aggregation -/

namespace Lexicon

variable {lex : Lexicon} {filter auth : Wire} {target : String} {filterSelf : Bool}

theorem compileAggregation_ok {result : Option Fragment}
    (h : lex.compileAggregation filter target filterSelf auth = .ok result) :
    ∃ e client scope, filter.parse 0 = .ok e ∧
      compileExpr? (lex.leafExcept (excludedField (some target) filterSelf) (lex.compile auth)) e =
        .ok client ∧
      lex.compile auth = .ok scope ∧
      result = joinScope (!filterSelf && requires? target e) client scope := by
  obtain ⟨e, he, h⟩ := bind_ok_iff.mp h
  obtain ⟨client, hclient, h⟩ := bind_ok_iff.mp h
  obtain ⟨scope, hscope, h⟩ := bind_ok_iff.mp h
  exact ⟨e, client, scope, he, hclient, hscope, (pure_ok_iff.mp h).symm⟩

/-- A caller's fragment is covered when its filter goes through the field: then the authorization
stands where every match must satisfy it. -/
theorem matches_of_requires {I : Reading δ} {d : δ} {A C : Fragment} {e : Option Expr}
    (hr : (!filterSelf && requires? target e) = true)
    (hC : compileExpr? (lex.leafExcept (excludedField (some target) filterSelf) (.ok (some A))) e =
      .ok (some C)) (hm : C.Matches I d) : A.Matches I d := by
  simp only [Bool.and_eq_true, Bool.not_eq_true'] at hr
  obtain ⟨rfl, hr⟩ := hr
  cases e with
  | none => simp [requires?] at hr
  | some e =>
    have hold := (Expr.compile_matches kept_leafExcept (faithful_leafExcept I d) hC).mp hm
    refine Expr.holds_of_requires (fun l hl hsat => ?_) hr hold
    rwa [Reading.GrantsReplaced, if_pos ⟨rfl, hl⟩, Fragment.matches_toValue] at hsat

/-- **The scope of an aggregation is exact.**  With an authorization filter that compiles to `A`, the
query that is sent matches a document exactly when that for `A` does and the caller's filter admits it,
where `A` stands for the conditions on the field when the field's own filter does not count; it is the
same as always joining the two queries. -/
theorem aggregation_scope_exact (c : Catalog) (index : String) (filter auth : Wire) (target : String)
    (filterSelf : Bool) {A : Fragment} {result : Option Fragment}
    (hA : (c.lexicon index).compile auth = .ok (some A))
    (h : (c.lexicon index).compileAggregation filter target filterSelf auth = .ok result) :
    ∃ R client, result = some R ∧
      (c.lexicon index).compileFor filter (some target) filterSelf auth = .ok client ∧
      ∀ {δ : Type u} (I : Reading δ), I.Coherent → ∀ d : δ,
        (R.toValue.Matches I d ↔ A.toValue.Matches I d ∧
          filter.Admits (I.GrantsReplaced d target filterSelf A.toValue)) ∧
        (R.toValue.Matches I d ↔
          (joinAlways A.toValue (client.map Fragment.toValue)).Matches I d) := by
  obtain ⟨e, client, scope, he, hclient, hscope, rfl⟩ := compileAggregation_ok h
  rw [hA] at hclient hscope
  cases hscope
  obtain ⟨R, hR⟩ := joinScope_isSome (!filterSelf && requires? target e) client A
  have hcompiled : (c.lexicon index).compileFor filter (some target) filterSelf auth = .ok client := by
    rw [compileFor, he, hA]
    exact hclient
  refine ⟨R, client, hR, hcompiled, ?_⟩
  intro δ I hI d
  have hplain : R.Matches I d ↔ A.Matches I d ∧ Fragment.Matches? I d client := by
    refine joinScope_matches hI d ?_ hR
    intro hr C hC hm
    subst hC
    exact matches_of_requires hr hclient hm
  have hadmits : Fragment.Matches? I d client ↔
      filter.Admits (I.GrantsReplaced d target filterSelf A.toValue) := by
    rw [matches?_compileExpr? kept_leafExcept (faithful_leafExcept I d) hclient,
      Wire.admits_of_parse _ he]
  rw [Fragment.matches_toValue, Fragment.matches_toValue, joinAlways_matches, hplain, hadmits]
  exact ⟨Iff.rfl, Iff.rfl⟩

/-- The replaced condition stands under a disjunction here, so the authorization is joined once more. -/
theorem aggregation_scope_exact_of_people :
    ∃ A R client, (Catalog.people.lexicon "people").compile Wire.ownResources = .ok (some A) ∧
      (Catalog.people.lexicon "people").compileAggregation Wire.femaleOrAdult "gender" false
        Wire.ownResources = .ok (some R) ∧
      (Catalog.people.lexicon "people").compileFor Wire.femaleOrAdult (some "gender") false
        Wire.ownResources = .ok client ∧
      A.toValue = .obj [("terms", .obj [("resource", .arr [.str "/a", .str "/b"])])] ∧
      R.toValue = .obj [("bool", .obj [("must", .arr [
        .obj [("bool", .obj [("should", .arr [
          .obj [("terms", .obj [("resource", .arr [.str "/a", .str "/b"])])],
          .obj [("range", .obj [("age", .obj [("gte", .int 20)])])]])])],
        .obj [("terms", .obj [("resource", .arr [.str "/a", .str "/b"])])]])])] ∧
      ∀ {δ : Type u} (I : Reading δ), I.Coherent → ∀ d : δ,
        (R.toValue.Matches I d ↔ A.toValue.Matches I d ∧
          Wire.femaleOrAdult.Admits (I.GrantsReplaced d "gender" false A.toValue)) ∧
        (R.toValue.Matches I d ↔
          (joinAlways A.toValue (client.map Fragment.toValue)).Matches I d) := by
  have hA : (Catalog.people.lexicon "people").compile Wire.ownResources =
      .ok (some (.terms "resource" (.arr [.str "/a", .str "/b"]))) := by cbv
  have hR : (Catalog.people.lexicon "people").compileAggregation Wire.femaleOrAdult "gender" false
      Wire.ownResources =
      .ok (some (.bool .all [.bool .any [.terms "resource" (.arr [.str "/a", .str "/b"]),
        .range .gte "age" (.int 20)], .terms "resource" (.arr [.str "/a", .str "/b"])])) := by cbv
  obtain ⟨R, client, hsame, hclient, hexact⟩ := aggregation_scope_exact Catalog.people "people"
    Wire.femaleOrAdult Wire.ownResources "gender" false hA hR
  cases hsame
  exact ⟨_, _, client, hA, hR, hclient, by rfl, by rfl, hexact⟩

end Lexicon

end ScopedSearch
