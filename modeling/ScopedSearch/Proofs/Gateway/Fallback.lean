import ScopedSearch.Proofs.Gateway.Acceptance

/-!
# When the authority cannot be asked

A lookup that fails gives no resources (`resources_of_fails`).  To ask for the documents in reach is
then to ask for none.  But to ask for those out of reach is to ask for all, since the filter names what
is left of the resources when the authorized ones are taken away.  So a failure is narrower than every
answer in the first case, and in the second only than the answers that list no resource of the index
(`within_after_failure_iff`).
-/

namespace ScopedSearch

universe u

/-! ### Lookups that fail -/

namespace Authority

/-- A lookup for a token fails: there is no token, nobody is at the address, the reply is no success,
or its body is not JSON. -/
inductive Fails (a : Authority) (token : Option String) : Prop where
  | noToken (h : token.getD "" = "")
  | nobody {address : Url.Address} (h : a.address? = some address) (hrel : address.isAbsolute = false)
  | noSuccess (h : body? a.reply = none)
  | unreadable {body : String} {e : MessageError} (h : body? a.reply = some body)
      (he : Json.readMessage body = .error e)

variable {a : Authority} {token : Option String} {vs : List Value}

theorem resourcesIn_of_unreadable {body : String} {e : MessageError}
    (he : Json.readMessage body = .error e) (h : resourcesIn body = .ok vs) : vs = [] := by
  unfold resourcesIn at h
  rw [he] at h
  split at h
  · rename_i v hv
    cases hv
  · cases h
  · exact (Except.ok.inj h).symm

/-- **A lookup that fails gives no resources.** -/
theorem resources_of_fails (hfail : a.Fails token) (h : (a.resources token).2 = .ok vs) : vs = [] := by
  unfold resources at h
  split at h
  · exact (Except.ok.inj h).symm
  rename_i t
  split at h
  · exact (Except.ok.inj h).symm
  rename_i ht
  split at h
  · cases h
  rename_i address haddress
  unfold ask at h
  dsimp only at h
  split at h
  · rename_i habs
    cases hfail with
    | noToken hnone => simp at hnone ht; exact absurd hnone ht
    | nobody hother hrel =>
      rw [haddress] at hother
      cases hother
      rw [habs] at hrel
      cases hrel
    | noSuccess hbody =>
      rw [resourcesOf, hbody] at h
      exact (Except.ok.inj h).symm
    | unreadable hbody he =>
      rw [resourcesOf, hbody] at h
      exact resourcesIn_of_unreadable he h
  · exact (Except.ok.inj h).symm

end Authority

/-! ### Readings with several values in a field -/

/-- In a reading where a field holds some values, it is a member of a list when one of them is. -/
def Reading.Holds {δ : Type u} (I : Reading δ) (field : String) (values : δ → List Value) : Prop :=
  ∀ vs d, I .member field (.arr vs) d ↔ ∃ v ∈ values d, v.isIn vs = true

/-- Every document that matches what is sent for the first fragment also matches what is sent for the
second, whatever values a field holds. -/
def Fragment.Within (field : String) (q q' : Option Fragment) : Prop :=
  ∀ (δ : Type u) (I : Reading δ) (values : δ → List Value), I.Holds field values →
    ∀ d : δ, Value.Matches? I d (q.map toValue) → Value.Matches? I d (q'.map toValue)

/-! ### Two lookups -/

namespace Accessibility

variable {a : Accessibility} {ss : List String} {listed : Except Failure (List Value)}

/-- Fewer authorized resources are a narrower scope, unless a resource of the index is among those that
are no longer authorized and the scope is what is out of reach. -/
theorem inScope_of_nil_iff (ha : a ≠ .all) :
    (∀ v, a.InScope [] listed v → a.InScope ss listed v) ↔
      (a = .unaccessible → ∀ s ∈ ss, ∀ whole, listed = .ok whole → ¬ (Value.str s).isIn whole = true) := by
  cases a with
  | all => exact absurd rfl ha
  | accessible => simp [InScope]
  | unaccessible =>
    simp only [InScope, List.not_mem_nil, false_and, exists_false, not_false_eq_true, and_true,
      forall_const]
    constructor
    · intro h s hs whole hwhole hin
      obtain ⟨-, -, -, hout⟩ := h (.str s) ⟨whole, hwhole, hin⟩
      exact hout ⟨s, hs, rfl⟩
    · rintro h v ⟨whole, hwhole, hin⟩
      refine ⟨whole, hwhole, hin, ?_⟩
      rintro ⟨s, hs, rfl⟩
      exact h s hs whole hwhole hin

/-- What is out of reach of an answer is out of reach of no answer. -/
theorem inScope_nil_of_inScope {v : Value} (h : unaccessible.InScope ss listed v) :
    unaccessible.InScope [] listed v := by
  obtain ⟨whole, hwhole, hin, -⟩ := h
  exact ⟨whole, hwhole, hin, by simp⟩

end Accessibility

namespace Gateway

def under (g : Gateway) (authority : Authority) : Gateway := { g with authority := some authority }

variable {g : Gateway} {authority : Authority} {type : String} {token : Option String}
  {a : Accessibility} {f : Option Value}

theorem result_allResources_under :
    ((g.under authority).allResources type).result = (g.allResources type).result := by
  unfold allResources onType
  split <;> rename_i hother <;> split <;> rename_i hown <;>
    simp_all [under, indexOf, Step.ofResult, Step.ofExchange]

theorem matches_authFilter (ha : a ≠ .all) {ss : List String}
    (hlisted : ∀ vs, (authority.resources token).2 = .ok vs → vs = ss.map .str)
    (hf : ((g.under authority).authFilter type token a).result = .ok f) {lex : Lexicon}
    {q : Option Fragment} (hq : lex.compile (authWire f) = .ok q) {δ : Type u} (I : Reading δ)
    (values : δ → List Value) (hI : I.Holds g.authField values) (d : δ) :
    Value.Matches? I d (q.map Fragment.toValue) ↔
      ∃ v ∈ values d, a.InScope ss (g.allResources type).result v := by
  obtain ⟨vs, rest, hvs, hsel, rfl⟩ := authFilter_ok rfl ha hf
  obtain rfl := hlisted vs hvs
  rw [result_allResources_under] at hsel
  -- on its own the filter is the scope of no filter
  have hscope : lex.compile (Wire.absent.scope (Accessibility.scopeOf g.authField rest)) = .ok q := hq
  obtain ⟨p, rfl, hp⟩ := Accessibility.matches_of_compile_scope hscope
  have hnone : Wire.absent.Admits (I.Grants d) := Wire.admits_of_conditions_eq_nil rfl
  have hmember := hI rest d
  simp only [Accessibility.isIn_iff_inScope hsel] at hmember
  rw [Fragment.matches?_map_toValue, Fragment.Matches?, hp I d, ← hmember]
  exact and_iff_right hnone

/-- **What a failed lookup leads to.**  Against an answer that lists texts, with the same accessibility
and the same index, the query after a failure matches no more than the query after the answer exactly
when, for what is out of reach, the answer lists no resource of the index.  For what is in reach the
query after a failure matches nothing; for what is out of reach it matches at least as much as the
query after any answer. -/
theorem within_after_failure_iff (g : Gateway) (type : String) {failing answering : Authority}
    {token token' : Option String} {a : Accessibility} (ha : a ≠ .all) (hfail : failing.Fails token)
    {ss : List String} (hlisted : (answering.resources token').2 = .ok (ss.map .str))
    {f f' : Option Value} (hf : ((g.under failing).authFilter type token a).result = .ok f)
    (hf' : ((g.under answering).authFilter type token' a).result = .ok f') {lex : Lexicon}
    {q q' : Option Fragment} (hq : lex.compile (authWire f) = .ok q)
    (hq' : lex.compile (authWire f') = .ok q') :
    (Fragment.Within.{u} g.authField q q' ↔ (a = .unaccessible → ∀ s ∈ ss, ∀ whole,
      (g.allResources type).result = .ok whole → ¬ (Value.str s).isIn whole = true)) ∧
    (a = .accessible → ∀ {δ : Type u} (I : Reading δ) (values : δ → List Value),
      I.Holds g.authField values → ∀ d, ¬ Value.Matches? I d (q.map Fragment.toValue)) ∧
    (a = .unaccessible → Fragment.Within.{u} g.authField q' q) := by
  have hnone : ∀ vs, (failing.resources token).2 = .ok vs → vs = ([] : List String).map .str :=
    fun vs hvs => Authority.resources_of_fails hfail hvs
  have hafter : ∀ {δ : Type u} (I : Reading δ) (values : δ → List Value),
      I.Holds g.authField values → ∀ d, Value.Matches? I d (q.map Fragment.toValue) ↔
        ∃ v ∈ values d, a.InScope [] (g.allResources type).result v :=
    matches_authFilter ha hnone hf hq
  have hanswer : ∀ {δ : Type u} (I : Reading δ) (values : δ → List Value),
      I.Holds g.authField values → ∀ d, Value.Matches? I d (q'.map Fragment.toValue) ↔
        ∃ v ∈ values d, a.InScope ss (g.allResources type).result v :=
    matches_authFilter ha (fun vs hvs => Except.ok.inj (hvs.symm.trans hlisted)) hf' hq'
  refine ⟨?_, ?_, ?_⟩
  · rw [← Accessibility.inScope_of_nil_iff ha]
    constructor
    · intro hwithin v hv
      -- a document that holds this one resource
      let I : Reading PUnit.{u + 1} := fun _ _ w _ => ∃ vs, w = .arr vs ∧ v.isIn vs = true
      have hI : I.Holds g.authField fun _ => [v] := by
        intro vs d
        simp [I]
      have hq := hwithin _ I _ hI ⟨⟩ ((hafter I _ hI ⟨⟩).mpr ⟨v, by simp, hv⟩)
      obtain ⟨w, hw, hin⟩ := (hanswer I _ hI ⟨⟩).mp hq
      obtain rfl := List.mem_singleton.mp hw
      exact hin
    · intro hscope δ I values hI d hd
      obtain ⟨v, hv, hin⟩ := (hafter I values hI d).mp hd
      exact (hanswer I values hI d).mpr ⟨v, hv, hscope v hin⟩
  · rintro rfl δ I values hI d hd
    obtain ⟨v, -, s, hs, -⟩ := (hafter I values hI d).mp hd
    cases hs
  · rintro rfl δ I values hI d hd
    obtain ⟨v, hv, hin⟩ := (hanswer I values hI d).mp hd
    exact (hafter I values hI d).mpr ⟨v, hv, Accessibility.inScope_nil_of_inScope hin⟩

end Gateway

def Authority.ofOne : Authority := ⟨"http://authority", .answered 200 "[\"/a\"]"⟩

def Authority.broken : Authority := ⟨"http://authority", .answered 503 ""⟩

def Gateway.ofResources : Gateway :=
  { Gateway.people with backend := .recorder [] [.str "/a", .str "/b"], authField := "resource" }

namespace Gateway

theorem within_after_failure_iff_of_people :
    Accessibility.accessible ≠ .all ∧ Authority.broken.Fails (some "t") ∧
    (Authority.ofOne.resources (some "t")).2 = .ok (["/a"].map .str) ∧
    ((ofResources.under .broken).authFilter "person" (some "t") .accessible).result =
      .ok (some (Accessibility.among "resource" [])) ∧
    ((ofResources.under .ofOne).authFilter "person" (some "t") .accessible).result =
      .ok (some (Accessibility.among "resource" [.str "/a"])) ∧
    Fragment.Within.{0} "resource" (some (.terms "resource" (.arr [])))
      (some (.terms "resource" (.arr [.str "/a"]))) := by
  have hfail : Authority.broken.Fails (some "t") := .noSuccess (by decide)
  have hlisted : (Authority.ofOne.resources (some "t")).2 = .ok (["/a"].map .str) := by cbv
  have hf : ((ofResources.under .broken).authFilter "person" (some "t") .accessible).result =
      .ok (some (Accessibility.among "resource" [])) := by cbv
  have hf' : ((ofResources.under .ofOne).authFilter "person" (some "t") .accessible).result =
      .ok (some (Accessibility.among "resource" [.str "/a"])) := by cbv
  have hq : (Catalog.people.lexicon "people").compile (authWire (some (Accessibility.among "resource" []))) =
      .ok (some (.terms "resource" (.arr []))) := by cbv
  have hq' : (Catalog.people.lexicon "people").compile
      (authWire (some (Accessibility.among "resource" [.str "/a"]))) =
      .ok (some (.terms "resource" (.arr [.str "/a"]))) := by cbv
  have hwithin :=
    (within_after_failure_iff.{0} ofResources "person" (by decide) hfail hlisted hf hf' hq hq').1
  exact ⟨by decide, hfail, hlisted, hf, hf', hwithin.mpr fun h => by cases h⟩

/-- A document with the one authorized resource is out of reach after a failure, but not after the
answer that lists its resource. -/
theorem not_within_after_failure_of_people :
    Authority.broken.Fails (some "t") ∧
    (Authority.ofOne.resources (some "t")).2 = .ok (["/a"].map .str) ∧
    ((ofResources.under .broken).authFilter "person" (some "t") .unaccessible).result =
      .ok (some (Accessibility.among "resource" [.str "/a", .str "/b"])) ∧
    ((ofResources.under .ofOne).authFilter "person" (some "t") .unaccessible).result =
      .ok (some (Accessibility.among "resource" [.str "/b"])) ∧
    (Catalog.people.lexicon "people").compile
        (authWire (some (Accessibility.among "resource" [.str "/a", .str "/b"]))) =
      .ok (some (.terms "resource" (.arr [.str "/a", .str "/b"]))) ∧
    (Catalog.people.lexicon "people").compile
        (authWire (some (Accessibility.among "resource" [.str "/b"]))) =
      .ok (some (.terms "resource" (.arr [.str "/b"]))) ∧
    ¬ Fragment.Within.{0} "resource" (some (.terms "resource" (.arr [.str "/a", .str "/b"])))
      (some (.terms "resource" (.arr [.str "/b"]))) := by
  refine ⟨.noSuccess (by decide), by cbv, by cbv, by cbv, by cbv, by cbv, fun hwithin => ?_⟩
  let I : Reading Unit := fun _ _ w _ => ∃ vs, w = .arr vs ∧ (Value.str "/a").isIn vs = true
  have hI : I.Holds "resource" fun _ => [.str "/a"] := by
    intro vs d
    simp [I]
  have hmatch : Value.Matches? I ()
      (some (.obj [("terms", .obj [("resource", .arr [.str "/a", .str "/b"])])])) :=
    .terms ⟨_, rfl, by decide⟩
  have hout := (Fragment.matches?_map_toValue (I := I)).mp (hwithin Unit I _ hI () hmatch)
  obtain ⟨vs, hvs, hin⟩ := hout
  cases hvs
  exact absurd hin (by decide)

end Gateway

end ScopedSearch
