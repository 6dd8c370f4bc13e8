import Mathlib.Data.List.Basic
import ScopedSearch.Proofs.Filter.Exclusion
import ScopedSearch.Proofs.Query.Aggregation
import ScopedSearch.Proofs.Query.Refusal

/-!
# Excluding the field's own filter

Whether an aggregation gets narrower when the filter on its own field does not count.  Under an
authorization filter it does not: that filter takes the place of the conditions on the field, and it is
to be matched in any case.  Without one they are left out (`compile_without`), and then a document may
be lost that is granted by a condition which goes from a disjunction of which something is left.  If no
condition goes in this way, no document is lost; and if the other conditions are on different fields,
then some document is lost as soon as one does (`entails_excluding`).
-/

namespace ScopedSearch

universe u

variable {δ : Type u}

/-- Every document that matches what is sent for the first fragment also matches what is sent for the
second, under any reading that does not tell equal values apart. -/
def Fragment.Entails (R R' : Option Fragment) : Prop :=
  ∀ (δ : Type u) (I : Reading δ), I.Coherent → ∀ d : δ,
    Value.Matches? I d (R.map toValue) → Value.Matches? I d (R'.map toValue)

theorem Fragment.entails_iff {R R' : Option Fragment} :
    Entails.{u} R R' ↔ ∀ (δ : Type u) (I : Reading δ), I.Coherent → ∀ d : δ,
      Matches? I d R → Matches? I d R' := by
  simp [Entails, matches?_map_toValue]

namespace Expr

variable {sat sat' : Condition → Prop} {field : String} {e : Option Expr}

/-! ### Trees that may be absent -/

def lost? (field : String) : Option Expr → List Condition
  | none => []
  | some e => e.lost field

theorem admits?_mono (h : ∀ l ∈ conditions? e, sat l → sat' l) (ha : Admits? sat e) :
    Admits? sat' e := by
  intro hne
  cases e with
  | none => trivial
  | some e => exact holds_mono h (ha hne)

theorem admits?_without (hlost : ∀ l ∈ lost? field e, ¬ sat l) (ha : Admits? sat e) :
    Admits? sat (e.bind (without field)) := by
  intro hne
  cases e with
  | none => trivial
  | some e =>
    rw [Option.bind_some] at hne ⊢
    cases hx : e.without field with
    | none => trivial
    | some x =>
      rw [hx] at hne
      exact holds_without hx hne hlost (ha (conditions_ne_nil_of_without hx hne))

/-! ### Compiling without the conditions on a field -/

section Compile

variable {leaf leaf' : Condition → Except Failure (Option Fragment)}

mutual

/-- **A tree whose conditions on a field become nothing compiles as if it were without them.** -/
theorem compile_without (hown : ∀ l : Condition, l.field = field → leaf' l = .ok none)
    (hother : ∀ l : Condition, l.field ≠ field → leaf' l = leaf l) :
    ∀ e : Expr, e.compile leaf' = Lexicon.compileExpr? leaf (e.without field)
  | .leaf l => by
    rw [compile, without]
    split
    · rename_i hl
      exact hown l hl
    · rename_i hl
      rw [hother l hl, Lexicon.compileExpr?, compile]
  | .group c parts => by
    rw [compile, without, Lexicon.compileExpr?, compile, compileAll_without hown hother parts]

theorem compileAll_without (hown : ∀ l : Condition, l.field = field → leaf' l = .ok none)
    (hother : ∀ l : Condition, l.field ≠ field → leaf' l = leaf l) :
    ∀ es : List Expr, compileAll leaf' es = compileAll leaf (withoutAll field es)
  | [] => rfl
  | e :: es => by
    rw [compileAll, withoutAll, compileAll_consPresent, compile_without hown hother e,
      compileAll_without hown hother es]

end

end Compile

end Expr

/-! ### Joining the two fragments -/

/-- What is joined is matched by the documents that match both, when the authorization is left out only
where the caller's fragment cannot match without it. -/
theorem matches?_joinScope {I : Reading δ} (hI : I.Coherent) (d : δ) {covered : Bool}
    {client scope : Option Fragment}
    (hcov : covered = true → ∀ C A, client = some C → scope = some A → C.Matches I d → A.Matches I d) :
    Fragment.Matches? I d (joinScope covered client scope) ↔
      Fragment.Matches? I d client ∧ Fragment.Matches? I d scope := by
  cases scope with
  | none => cases client <;> simp [joinScope, Fragment.Matches?]
  | some A =>
    obtain ⟨R, hR⟩ := joinScope_isSome covered client A
    rw [hR, Fragment.Matches?, joinScope_matches hI d (fun hc C hC => hcov hc C A hC rfl) hR,
      and_comm, Fragment.Matches?]

namespace Lexicon

variable {lex : Lexicon} {leaf : Condition → Except Failure (Option Fragment)} {e : Option Expr}
  {q : Option Fragment} {target : String}

theorem spelled_of_compileExpr? (h : compileExpr? lex.ownLeaf e = .ok q) {l : Condition}
    (hl : l ∈ Expr.conditions? e) : ∃ o, Operator.ofSpelling? l.operator = some o := by
  have hnone := failure?_compileExpr? lex.ownLeaf e
  rw [h, failure?, eq_comm, List.findSome?_eq_none_iff] at hnone
  have haccepted := failure?_eq_none.mp (hnone l hl)
  cases hf : lex.ownLeaf l with
  | error f => exact absurd hf (haccepted f)
  | ok f =>
    obtain ⟨g, hg, -⟩ := map_ok_iff.mp hf
    obtain ⟨-, -, o, -, -, ho, -⟩ := clause_ok hg
    exact ⟨o, ho⟩

theorem leafExcept_own (substitute : Except Failure (Option Fragment)) :
    lex.leafExcept (excludedField (some target) true) substitute = lex.ownLeaf := by
  funext l
  rw [leafExcept, if_neg (by simp [excludedField])]

theorem compileExpr?_without :
    compileExpr? (lex.leafExcept (excludedField (some target) false) (.ok none)) e =
      compileExpr? lex.ownLeaf (e.bind (Expr.without target)) := by
  cases e with
  | none => rfl
  | some e =>
    refine Expr.compile_without (fun l hl => ?_) (fun l hl => ?_) e
    · rw [leafExcept, if_pos (by simp [excludedField, hl])]
    · rw [leafExcept, if_neg fun h => hl (excludedField_eq_some.mp h).2]

/-! ### Aggregations with and without the field's own filter -/

section Aggregation

variable {filter auth : Wire} {R R' scope : Option Fragment} {I : Reading δ}

theorem compileAggregation_of_scope {filterSelf : Bool} (he : filter.parse 0 = .ok e)
    (hscope : lex.compile auth = .ok scope)
    (h : lex.compileAggregation filter target filterSelf auth = .ok R) :
    ∃ client, compileExpr? (lex.leafExcept (excludedField (some target) filterSelf) (.ok scope)) e =
        .ok client ∧
      R = joinScope (!filterSelf && requires? target e) client scope := by
  obtain ⟨e', client, scope', he', hclient, hscope', rfl⟩ := compileAggregation_ok h
  obtain rfl : e' = e := Except.ok.inj (he'.symm.trans he)
  obtain rfl : scope' = scope := Except.ok.inj (hscope'.symm.trans hscope)
  rw [hscope] at hclient
  exact ⟨client, hclient, rfl⟩

theorem matches?_including (hI : I.Coherent) (d : δ) (he : filter.parse 0 = .ok e)
    (hscope : lex.compile auth = .ok scope)
    (h : lex.compileAggregation filter target true auth = .ok R) :
    Fragment.Matches? I d R ↔ Expr.Admits? (I.Grants d) e ∧ Fragment.Matches? I d scope := by
  obtain ⟨client, hclient, rfl⟩ := compileAggregation_of_scope he hscope h
  rw [leafExcept_own] at hclient
  rw [matches?_joinScope hI d (by simp),
    matches?_compileExpr? kept_ownLeaf (faithful_ownLeaf I d) hclient]

/-- Without the field's own filter the authorization takes the place of the conditions on the field. -/
theorem matches?_excluding_some {A : Fragment} (hI : I.Coherent) (d : δ)
    (he : filter.parse 0 = .ok e) (hscope : lex.compile auth = .ok (some A))
    (h : lex.compileAggregation filter target false auth = .ok R') :
    Fragment.Matches? I d R' ↔
      Expr.Admits? (I.GrantsReplaced d target false A.toValue) e ∧ A.Matches I d := by
  obtain ⟨client, hclient, rfl⟩ := compileAggregation_of_scope he hscope h
  rw [matches?_joinScope hI d, Fragment.Matches?,
    matches?_compileExpr? kept_leafExcept (faithful_leafExcept I d) hclient]
  rintro hr C B rfl ⟨⟩ hm
  exact matches_of_requires hr hclient hm

theorem matches?_excluding_none (d : δ) (he : filter.parse 0 = .ok e)
    (hscope : lex.compile auth = .ok none)
    (h : lex.compileAggregation filter target false auth = .ok R') :
    Fragment.Matches? I d R' ↔ Expr.Admits? (I.Grants d) (e.bind (Expr.without target)) := by
  -- what is compiled is joined with nothing
  obtain ⟨client, hclient, rfl⟩ := compileAggregation_of_scope he hscope h
  rw [compileExpr?_without] at hclient
  exact matches?_compileExpr? kept_ownLeaf (faithful_ownLeaf I d) hclient

/-- What a document is lost for when the field's own filter does not count. -/
theorem matches?_or_lost (hI : I.Coherent) (d : δ) (he : filter.parse 0 = .ok e)
    (hscope : lex.compile auth = .ok scope)
    (h : lex.compileAggregation filter target true auth = .ok R)
    (h' : lex.compileAggregation filter target false auth = .ok R') (hR : Fragment.Matches? I d R) :
    Fragment.Matches? I d R' ∨ scope = none ∧ ∃ l ∈ Expr.lost? target e, I.Grants d l := by
  obtain ⟨hadmits, hA⟩ := (matches?_including hI d he hscope h).mp hR
  cases scope with
  | some A =>
    refine .inl ((matches?_excluding_some hI d he hscope h').mpr ⟨?_, hA⟩)
    refine Expr.admits?_mono (fun l _ hl => ?_) hadmits
    unfold Reading.GrantsReplaced
    split
    · exact (Fragment.matches_toValue I d A).mpr hA
    · exact hl
  | none =>
    by_cases hlost : ∃ l ∈ Expr.lost? target e, I.Grants d l
    · exact .inr ⟨rfl, hlost⟩
    · refine .inl ((matches?_excluding_none d he hscope h').mpr (Expr.admits?_without ?_ hadmits))
      intro l hl hgrants
      exact hlost ⟨l, hl, hgrants⟩

/-- Without an authorization some document is lost as soon as a condition is, if the other conditions
are on different fields. -/
theorem not_entails_of_lost (he : filter.parse 0 = .ok e) (hscope : lex.compile auth = .ok none)
    (h : lex.compileAggregation filter target true auth = .ok R)
    (h' : lex.compileAggregation filter target false auth = .ok R')
    (hfields : (((Expr.conditions? e).map (·.field)).filter (· ≠ target)).Nodup)
    (hlost : Expr.lost? target e ≠ []) : ¬ Fragment.Entails.{u} R R' := by
  intro hentails
  cases e with
  | none => exact hlost rfl
  | some e =>
    obtain ⟨P, hold, hfail⟩ := Expr.exists_separates hlost hfields
    obtain ⟨x, hx, hne⟩ := Expr.exists_without_of_lost hlost
    -- what a clause says is told by its field alone
    let I : Reading PUnit.{u + 1} := fun _ field _ _ => field = target ∨ P field
    have hI : I.Coherent := fun _ _ _ _ _ _ => Iff.rfl
    obtain ⟨client, hclient, -⟩ := compileAggregation_of_scope he hscope h
    rw [leafExcept_own] at hclient
    have hR : Fragment.Matches? I ⟨⟩ R := by
      refine (matches?_including hI ⟨⟩ he hscope h).mpr ⟨fun _ => ?_, trivial⟩
      refine Expr.holds_mono (fun l hl hsat => ?_) hold
      obtain ⟨o, ho⟩ := spelled_of_compileExpr? hclient hl
      exact (Reading.grants_iff ho).mpr hsat
    have hlost := Fragment.entails_iff.mp hentails _ I hI ⟨⟩ hR
    have hR' := (matches?_excluding_none (I := I) ⟨⟩ he hscope h').mp hlost
    rw [Option.bind_some, hx] at hR'
    refine hfail x hx hne (Expr.holds_mono ?_ (hR' hne))
    rintro l - ⟨o, -, hsat⟩
    exact hsat

end Aggregation

/-- **Excluding the field's own filter.**  Where the authorization filter compiles to a fragment, or no
condition goes from a disjunction of which something is left, an aggregation does not get narrower when
the filter on its own field does not count; if the caller's other conditions are on different fields, it
gets narrower in all other cases.  Whatever the filter, a document is lost only without an authorization
fragment, and only if it is granted by a condition that goes in this way. -/
theorem entails_excluding (c : Catalog) (index : String) (filter auth : Wire) (target : String)
    {R R' : Option Fragment}
    (h : (c.lexicon index).compileAggregation filter target true auth = .ok R)
    (h' : (c.lexicon index).compileAggregation filter target false auth = .ok R') :
    ∃ e scope, filter.parse 0 = .ok e ∧ (c.lexicon index).compile auth = .ok scope ∧
      ((scope = none → Expr.lost? target e = []) → Fragment.Entails.{u} R R') ∧
      ((((Expr.conditions? e).map (·.field)).filter (· ≠ target)).Nodup →
        Fragment.Entails.{u} R R' → scope = none → Expr.lost? target e = []) ∧
      ∀ {δ : Type u} (I : Reading δ), I.Coherent → ∀ d : δ,
        Value.Matches? I d (R.map Fragment.toValue) → Value.Matches? I d (R'.map Fragment.toValue) ∨
          scope = none ∧ ∃ l ∈ Expr.lost? target e, I.Grants d l := by
  obtain ⟨e, -, scope, he, -, hscope, -⟩ := compileAggregation_ok h
  refine ⟨e, scope, he, hscope, ?_, ?_, ?_⟩
  · rw [Fragment.entails_iff]
    intro hkept δ I hI d hR
    rcases matches?_or_lost hI d he hscope h h' hR with hR' | ⟨hnone, l, hl, -⟩
    · exact hR'
    · simp [hkept hnone] at hl
  · rintro hfields hentails rfl
    by_contra hlost
    exact not_entails_of_lost he hscope h h' hfields hlost hentails
  · intro δ I hI d hR
    rw [Fragment.matches?_map_toValue] at hR ⊢
    exact matches?_or_lost hI d he hscope h h' hR

/-- A conjunction gets wider without an authorization, and so does a disjunction under one. -/
theorem entails_excluding_of_people :
    (Catalog.people.lexicon "people").compileAggregation (.json .adultWoman) "gender" true .absent =
      .ok (some (.bool .all [.term "gender" (.str "f"), .bool .any [.range .gte "age" (.int 20)]])) ∧
    (Catalog.people.lexicon "people").compileAggregation (.json .adultWoman) "gender" false .absent =
      .ok (some (.bool .all [.bool .any [.range .gte "age" (.int 20)]])) ∧
    Fragment.Entails.{0}
      (some (.bool .all [.term "gender" (.str "f"), .bool .any [.range .gte "age" (.int 20)]]))
      (some (.bool .all [.bool .any [.range .gte "age" (.int 20)]])) ∧
    ∃ R R', (Catalog.people.lexicon "people").compileAggregation .femaleOrAdult "gender" true
        .ownResources = .ok R ∧
      (Catalog.people.lexicon "people").compileAggregation .femaleOrAdult "gender" false
        .ownResources = .ok R' ∧
      Fragment.Entails.{0} R R' := by
  refine ⟨by cbv, by cbv, ?_, _, _, by cbv, by cbv, ?_⟩
  · obtain ⟨e, scope, he, -, hwider, -⟩ := entails_excluding.{0} Catalog.people "people"
      (.json .adultWoman) .absent "gender" (by cbv) (by cbv)
    have hread : (Wire.json .adultWoman).parse 0 = .ok (some .adultWoman) := by cbv
    obtain rfl : e = some .adultWoman := Except.ok.inj (he.symm.trans hread)
    exact hwider fun _ => by cbv
  · obtain ⟨e, scope, -, hscope, hwider, -⟩ := entails_excluding.{0} Catalog.people "people"
      .femaleOrAdult .ownResources "gender" (by cbv) (by cbv)
    have hcompiled : (Catalog.people.lexicon "people").compile .ownResources =
        .ok (some (.terms "resource" (.arr [.str "/a", .str "/b"]))) := by cbv
    obtain rfl : scope = _ := Except.ok.inj (hscope.symm.trans hcompiled)
    exact hwider fun hnone => by cases hnone

/-- Without an authorization a document of a woman under twenty matches the disjunction with its own
filter only. -/
theorem not_entails_excluding_of_femaleOrAdult :
    (Catalog.people.lexicon "people").compileAggregation .femaleOrAdult "gender" true .absent =
      .ok (some (.bool .any [.term "gender" (.str "f"), .range .gte "age" (.int 20)])) ∧
    (Catalog.people.lexicon "people").compileAggregation .femaleOrAdult "gender" false .absent =
      .ok (some (.bool .any [.range .gte "age" (.int 20)])) ∧
    ¬ Fragment.Entails.{0}
      (some (.bool .any [.term "gender" (.str "f"), .range .gte "age" (.int 20)]))
      (some (.bool .any [.range .gte "age" (.int 20)])) := by
  refine ⟨by cbv, by cbv, fun hentails => ?_⟩
  let I : Reading Unit := fun _ field _ _ => field = "gender"
  have hI : I.Coherent := fun _ _ _ _ _ _ => Iff.rfl
  have hwoman : Fragment.Matches? I ()
      (some (.bool .any [.term "gender" (.str "f"), .range .gte "age" (.int 20)])) := by
    simp [Fragment.Matches?, Fragment.Matches, Fragment.matchesEach, Connective.joins_any_cons, I]
  have hlost := Fragment.entails_iff.mp hentails _ I hI () hwoman
  simp [Fragment.Matches?, Fragment.Matches, Fragment.matchesEach, Connective.Joins, I] at hlost

end Lexicon

end ScopedSearch
