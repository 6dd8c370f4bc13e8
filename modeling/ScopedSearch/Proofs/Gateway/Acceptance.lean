import ScopedSearch.Proofs.Filter.Depth
import ScopedSearch.Proofs.Gateway.Scope

/-!
# Whether a scope is accepted

A client's filter and an authorization filter are joined in a group of their own, and that group counts
for the limit on groups inside each other.  So of two filters that are accepted, the scoped filter is
refused exactly when one of them has as many groups inside each other as may be (`compile_scope`), and
with it every request for documents that is accepted without an authorization filter
(`refused_iff_overdeep`).
-/

namespace ScopedSearch

variable {α : Type}

/-! ### Filters -/

namespace Wire

/-- Both filters are given, and one of them has as many groups inside each other as may be. -/
def Overdeep (f a : Wire) : Prop :=
  f.truthy = true ∧ a.truthy = true ∧ depthLimit ≤ (max f.nesting a.nesting : ℕ)

instance (f a : Wire) : Decidable (Overdeep f a) := inferInstanceAs (Decidable (_ ∧ _))

theorem parse_and {f a : Wire} {d e : Option Expr} (hf : f.parse 0 = .ok d) (ha : a.parse 0 = .ok e) :
    (branch "AND" [f, a]).parse 0 =
      fitted 1 (max f.nesting a.nesting) (some (.group .all (consPresent d (consPresent e [])))) := by
  have hparts : parseAll 0 [f, a] = .ok (consPresent d (consPresent e [])) := by
    simp [parseAll, hf, ha, bind, Except.bind, pure, Except.pure]
  have hinside := parseAll_at hparts 1
  simp only [nestingAll, Nat.max_zero] at hinside
  simp only [parse, ofKey?_and, Int.zero_add, hinside, depthLimit, Int.reduceLE, ↓reduceIte, fitted]
  split <;> rfl

end Wire

namespace Lexicon

variable {lex : Lexicon} {f a : Wire} {q r : Option Fragment}

theorem compileAll_nil {leaf : Condition → Except Failure (Option Fragment)} :
    Expr.compileAll leaf [] = .ok [] := by
  rw [Expr.compileAll]

theorem compileAll_consPresent {leaf : Condition → Except Failure (Option Fragment)} {e : Option Expr}
    {es : List Expr} {fs : List Fragment} (he : compileExpr? leaf e = .ok q)
    (hes : Expr.compileAll leaf es = .ok fs) :
    Expr.compileAll leaf (consPresent e es) = .ok (consFragment q fs) := by
  rw [Expr.compileAll_consPresent, he, hes]
  rfl

theorem compile_and (hf : lex.compile f = .ok q) (ha : lex.compile a = .ok r) :
    lex.compile (.branch "AND" [f, a]) =
      fitted 1 (max f.nesting a.nesting) (joinParts .all (consFragment q (consFragment r []))) := by
  obtain ⟨d, hd, hq⟩ := bind_ok_iff.mp hf
  obtain ⟨e, he, hr⟩ := bind_ok_iff.mp ha
  have hparts := compileAll_consPresent hq (compileAll_consPresent hr compileAll_nil)
  rw [compile, Wire.parse_and hd he, fitted, fitted]
  split
  · simp [bind, Except.bind, compileExpr?, Expr.compile, hparts, Except.map]
  · rfl

/-- **Of two filters that are accepted, the scope is accepted too unless it is too deep.** -/
theorem compile_scope (hf : lex.compile f = .ok q) (ha : lex.compile a = .ok r) :
    ∃ s, lex.compile (f.scope a) = if f.Overdeep a then .error .filterTooDeep else .ok s := by
  unfold Wire.scope
  by_cases hat : a.truthy = true
  · by_cases hft : f.truthy = true
    · refine ⟨joinParts .all (consFragment q (consFragment r [])), ?_⟩
      simp only [hat, hft, Bool.not_true, Bool.false_eq_true, ↓reduceIte, compile_and hf ha, fitted,
        fits_one, Wire.Overdeep, true_and, ite_not]
    · exact ⟨r, by simp [hat, hft, Wire.Overdeep, ha]⟩
  · exact ⟨q, by simp [hat, Wire.Overdeep, hf]⟩

/-- Whether the scope of two filters that are accepted is refused. -/
theorem exists_scope_iff (hf : lex.compile f = .ok q) (ha : lex.compile a = .ok r) :
    (∃ s, lex.compile (f.scope a) = .ok s) ↔ ¬ f.Overdeep a := by
  obtain ⟨s, hs⟩ := compile_scope hf ha
  rw [hs]
  split <;> simp [*]

/-! ### Requests -/

theorem exists_pageBody_iff {ceiling : Int} {request : Request} :
    (∃ body, lex.pageBody ceiling request = .ok body) ↔ withinCeiling ceiling request = true ∧
      (∃ q, lex.compile request.filter = .ok q) ∧ ∃ s, lex.compileSort request.sort = .ok s := by
  unfold pageBody searchBody
  cases withinCeiling ceiling request <;> cases lex.compile request.filter <;>
    cases lex.compileSort request.sort <;> simp [bind, Except.bind, pure, Except.pure]

theorem exists_streamPlan_iff {request : Request} :
    (∃ plan, lex.streamPlan request = .ok plan) ↔
      (∃ q, lex.compile request.filter = .ok q) ∧ ∃ s, lex.compileSort request.sort = .ok s := by
  unfold streamPlan
  cases lex.compile request.filter <;> cases lex.compileSort request.sort <;>
    simp [bind, Except.bind, pure, Except.pure]

end Lexicon

theorem Call.ne_nil_of_queries {calls : List Call} {q : Option Value} (h : Call.queries calls = [q]) :
    calls ≠ [] := Call.ne_nil_of_mem_queries (q := q) (by simp [h])

/-- A step that fails before anything is asked of the backend. -/
def Step.Refused (s : Step α) : Prop := s.calls = [] ∧ ∃ f, s.result = .error f

namespace Gateway

variable {g : Gateway} {index type : String} {request : Request} {filter : Wire}

theorem refused_indexData :
    (g.indexData index request).Refused ↔
      ¬ ∃ body, (g.lexicon index).pageBody g.ceiling request = .ok body := by
  unfold indexData
  split
  · rename_i f hf
    simp [Step.Refused, Step.ofResult, hf]
  · rename_i body hbody
    have hcalls := Call.ne_nil_of_queries (Backend.queries_execute g.backend index body)
    simp [Step.Refused, Step.ofExchange, hcalls, hbody]

theorem refused_indexCount :
    (g.indexCount index filter).Refused ↔ ¬ ∃ q, (g.lexicon index).compile filter = .ok q := by
  unfold indexCount
  split
  · rename_i f hf
    simp [Step.Refused, Step.ofResult, hf]
  · rename_i query hquery
    have hcalls := Call.ne_nil_of_queries (Backend.queries_count g.backend index query)
    simp [Step.Refused, Step.ofExchange, queryValue, hcalls, hquery]

theorem exists_indexStream_iff {want : Option ℕ} :
    (∃ run, g.indexStream index request want = .ok run) ↔
      ∃ plan, (g.lexicon index).streamPlan request = .ok plan := by
  simp [indexStream, map_ok_iff]

theorem onType_eq {step : String → Step α} (h : g.indexOf type = .ok index) :
    g.onType type step = step index := by
  rw [onType, h]

theorem downloadStream_eq {auth : Wire} {want : Option ℕ} (h : g.indexOf type = .ok index) :
    g.downloadStream type request auth want = g.indexStream index (request.scope auth) want := by
  rw [downloadStream, h]
  rfl

theorem scope_absent (request : Request) : request.scope .absent = request := rfl

/-- **An accepted filter is refused under an accepted authorization filter exactly when the two are too
deep together**, and a request that is accepted without the authorization filter is refused with it
exactly then. -/
theorem refused_iff_overdeep (g : Gateway) {type index : String} (f a : Wire)
    (hindex : g.indexOf type = .ok index) (hf : ∃ q, (g.lexicon index).compile f = .ok q)
    (ha : ∃ r, (g.lexicon index).compile a = .ok r) :
    (∃ s, (g.lexicon index).compile (f.scope a) =
      if f.Overdeep a then .error .filterTooDeep else .ok s) ∧
    ((g.count type f a).Refused ↔ f.Overdeep a) ∧
    ∀ request : Request, request.filter = f →
      (¬ (g.data type request .absent).Refused →
        ((g.data type request a).Refused ↔ f.Overdeep a)) ∧
      ∀ want, (∃ run, g.downloadStream type request .absent want = .ok run) →
        ((∃ e, g.downloadStream type request a want = .error e) ↔ f.Overdeep a) := by
  obtain ⟨q, hq⟩ := hf
  obtain ⟨r, hr⟩ := ha
  have hscope : ¬ (∃ s, (g.lexicon index).compile (f.scope a) = .ok s) ↔ f.Overdeep a := by
    rw [Lexicon.exists_scope_iff hq hr, not_not]
  refine ⟨Lexicon.compile_scope hq hr, ?_, ?_⟩
  · rw [count, onType_eq hindex, refused_indexCount, hscope]
  · rintro request rfl
    constructor
    · intro halone
      rw [data, onType_eq hindex, scope_absent, refused_indexData, not_not,
        Lexicon.exists_pageBody_iff] at halone
      obtain ⟨hpage, -, hsort⟩ := halone
      rw [data, onType_eq hindex, refused_indexData, Lexicon.exists_pageBody_iff, ← hscope]
      -- the page and the sort are those of the request alone
      exact not_congr ⟨fun h => h.2.1, fun h => ⟨hpage, h, hsort⟩⟩
    · intro want halone
      rw [downloadStream_eq hindex, scope_absent, exists_indexStream_iff,
        Lexicon.exists_streamPlan_iff] at halone
      obtain ⟨-, hsort⟩ := halone
      rw [downloadStream_eq hindex, exists_error_iff, exists_indexStream_iff,
        Lexicon.exists_streamPlan_iff, ← hscope]
      exact not_congr ⟨fun h => h.1, fun h => ⟨h, hsort⟩⟩

end Gateway

def Gateway.people : Gateway where
  configs := [⟨"people", "person"⟩]
  catalog := .people
  backend := .recorder [] []

def Value.inGroups : ℕ → Value → Value
  | 0, v => v
  | n + 1, v => .obj [("and", .arr [inGroups n v])]

def Wire.women (n : ℕ) : Wire := .json (.inGroups n (.obj [("=", .obj [("gender", .str "f")])]))

/-- An authorization filter for one resource. -/
def Wire.ownResource : Wire := .json (.obj [("in", .obj [("resource", .arr [.str "/p"])])])

namespace Gateway

theorem refused_iff_overdeep_of_people :
    people.indexOf "person" = .ok "people" ∧
    (∃ q, (people.lexicon "people").compile (.women 63) = .ok q) ∧
    (∃ r, (people.lexicon "people").compile .ownResource = .ok r) ∧
    ¬ (Wire.women 63).Overdeep .ownResource ∧
    (∃ s, (people.lexicon "people").compile ((Wire.women 63).scope .ownResource) =
      if (Wire.women 63).Overdeep .ownResource then .error .filterTooDeep else .ok s) ∧
    ((people.count "person" (.women 63) .ownResource).Refused ↔
      (Wire.women 63).Overdeep .ownResource) ∧
    ∀ request : Request, request.filter = .women 63 →
      (¬ (people.data "person" request .absent).Refused →
        ((people.data "person" request .ownResource).Refused ↔
          (Wire.women 63).Overdeep .ownResource)) ∧
      ∀ want, (∃ run, people.downloadStream "person" request .absent want = .ok run) →
        ((∃ e, people.downloadStream "person" request .ownResource want = .error e) ↔
          (Wire.women 63).Overdeep .ownResource) := by
  have hindex : people.indexOf "person" = .ok "people" := rfl
  have hf : ∃ q, (people.lexicon "people").compile (.women 63) = .ok q :=
    isOk_iff.mp (by decide +kernel)
  have ha : ∃ r, (people.lexicon "people").compile .ownResource = .ok r :=
    isOk_iff.mp (by decide +kernel)
  exact ⟨hindex, hf, ha, by decide +kernel,
    refused_iff_overdeep people (.women 63) .ownResource hindex hf ha⟩

/-- A filter with as many groups inside each other as may be is accepted on its own, and so is the
authorization filter, but a count under both is refused. -/
theorem refused_scope_of_women :
    (∃ q, (people.lexicon "people").compile (.women 64) = .ok q) ∧
    (∃ r, (people.lexicon "people").compile .ownResource = .ok r) ∧
    (∃ e, (people.lexicon "people").compile ((Wire.women 64).scope .ownResource) = .error e) ∧
    ¬ (people.count "person" (.women 64) .absent).Refused ∧
    (people.count "person" (.women 64) .ownResource).Refused := by
  have hindex : people.indexOf "person" = .ok "people" := rfl
  have hf : ∃ q, (people.lexicon "people").compile (.women 64) = .ok q :=
    isOk_iff.mp (by decide +kernel)
  have ha : ∃ r, (people.lexicon "people").compile .ownResource = .ok r :=
    isOk_iff.mp (by decide +kernel)
  have hscope : ¬ ∃ s, (people.lexicon "people").compile ((Wire.women 64).scope .ownResource) = .ok s := by
    rw [← isOk_iff]
    decide +kernel
  refine ⟨hf, ha, exists_error_iff.mpr hscope, ?_, ?_⟩
  · rw [count, onType_eq hindex, refused_indexCount, not_not]
    exact hf
  · rw [count, onType_eq hindex, refused_indexCount]
    exact hscope

end Gateway

end ScopedSearch
