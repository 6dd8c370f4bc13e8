import ScopedSearch.Proofs.Gateway.Acceptance

/-!
# Pages, counts and streams agree

A page, a count and a stream under the same filter and the same authorization filter send the same
query, and a document matches it exactly when it passes both filters (`queries_agree`).  Nothing else
of a request has a say in that: not its page, its order, its fields, nor how far the stream is read.
-/

namespace ScopedSearch

universe u

variable {α : Type} {δ : Type u}

/-- A document passes a filter when the filter counts as not given, or else compiles, to nothing or to
a fragment for which a query is sent that the document matches. -/
def Lexicon.Passes (lex : Lexicon) (I : Reading δ) (d : δ) (w : Wire) : Prop :=
  w.truthy = false ∨
    ∃ q, lex.compile w = .ok q ∧ Value.Matches? I d (q.map Fragment.toValue)

/-! ### Filters -/

theorem Expr.compileAll_consPresent_ok {leaf : Condition → Except Failure (Option Fragment)}
    {e : Option Expr} {es : List Expr} {fs : List Fragment}
    (h : compileAll leaf (consPresent e es) = .ok fs) :
    (∃ q, Lexicon.compileExpr? leaf e = .ok q) ∧ ∃ rest, compileAll leaf es = .ok rest := by
  rw [compileAll_consPresent] at h
  obtain ⟨q, hq, h⟩ := bind_ok_iff.mp h
  obtain ⟨rest, hrest, -⟩ := bind_ok_iff.mp h
  exact ⟨⟨q, hq⟩, rest, hrest⟩

namespace Lexicon

variable {lex : Lexicon} {I : Reading δ} {d : δ} {f a w : Wire} {q : Option Fragment}

/-- The parts of a group that compiles do so on their own. -/
theorem compile_of_and (h : lex.compile (.branch "AND" [f, a]) = .ok q) :
    (∃ r, lex.compile f = .ok r) ∧ ∃ s, lex.compile a = .ok s := by
  obtain ⟨e, he, hq⟩ := bind_ok_iff.mp h
  obtain ⟨v, hv, -⟩ | ⟨t, ht, -⟩ | ⟨key, c, parts, es, hkey, -, -, hes, rfl⟩ := Wire.parse_cases he
  · cases hv
  · cases ht
  obtain ⟨rfl, rfl⟩ := Wire.branch.inj hkey
  obtain ⟨ef, rest, hef, hrest, rfl⟩ := Wire.parseAll_cons hes
  obtain ⟨ea, after, hea, -, rfl⟩ := Wire.parseAll_cons hrest
  obtain ⟨fs, hfs, -⟩ := map_ok_iff.mp hq
  obtain ⟨⟨r, hr⟩, rest, hrest⟩ := Expr.compileAll_consPresent_ok hfs
  obtain ⟨⟨s, hs⟩, -⟩ := Expr.compileAll_consPresent_ok hrest
  exact ⟨⟨r, bind_ok_iff.mpr ⟨ef, Wire.parse_of_le hef (by decide), hr⟩⟩,
    ⟨s, bind_ok_iff.mpr ⟨ea, Wire.parse_of_le hea (by decide), hs⟩⟩⟩

/-- When a scoped filter compiles, each of the filters in it that is given does so on its own. -/
theorem compile_of_scope (h : lex.compile (f.scope a) = .ok q) :
    (f.truthy = true → ∃ r, lex.compile f = .ok r) ∧
    (a.truthy = true → ∃ s, lex.compile a = .ok s) := by
  unfold Wire.scope at h
  split at h
  · rename_i ha
    exact ⟨fun _ => ⟨q, h⟩, fun hat => by simp [hat] at ha⟩
  split at h
  · rename_i hf
    exact ⟨fun hft => by simp [hft] at hf, fun _ => ⟨q, h⟩⟩
  · have hparts := compile_of_and h
    exact ⟨fun _ => hparts.1, fun _ => hparts.2⟩

theorem passes_iff_admits (h : w.truthy = true → ∃ q, lex.compile w = .ok q) :
    lex.Passes I d w ↔ w.Admits (I.Grants d) := by
  by_cases hw : w.truthy = true
  · obtain ⟨q, hq⟩ := h hw
    simp [Passes, hw, hq, Fragment.matches?_map_toValue, matches?_compile hq]
  · have hnil := Wire.conditions_of_not_truthy (by simpa using hw)
    exact iff_of_true (.inl (by simpa using hw)) (Wire.admits_of_conditions_eq_nil hnil)

/-- **A document matches what a scoped filter compiles to when it passes both filters.** -/
theorem matches?_scope (h : lex.compile (f.scope a) = .ok q) :
    Fragment.Matches? I d q ↔ lex.Passes I d f ∧ lex.Passes I d a := by
  have hparts := compile_of_scope h
  rw [matches?_compile h, Wire.scope_admits, passes_iff_admits hparts.1,
    passes_iff_admits hparts.2]

theorem compile_scope_eq_none (h : lex.compile (f.scope a) = .ok q) :
    q = none ↔ f.conditions = [] ∧ a.conditions = [] := by
  rw [compile_eq_none h, Wire.conditions_scope, List.append_eq_nil_iff]

end Lexicon

/-! ### Steps that reach the backend -/

namespace Gateway

variable {g : Gateway} {index type : String} {request : Request} {filter auth : Wire}

theorem indexOf_of_calls {step : String → Step α} (h : (g.onType type step).calls ≠ []) :
    ∃ index, g.indexOf type = .ok index := by
  unfold onType at h
  split at h
  · exact absurd rfl h
  · rename_i index hindex
    exact ⟨index, hindex⟩

theorem queries_indexScroll {want : Option ℕ} (h : (g.indexScroll index request want).calls ≠ []) :
    ∃ f, (g.lexicon index).compile request.filter = .ok f ∧
      (g.indexScroll index request want).queries = [queryValue f] := by
  unfold indexScroll at h ⊢
  split at h
  · exact absurd rfl h
  · rename_i run hrun
    exact queries_indexStream hrun h

/-- **A page, a count and a stream send the same query.**  Under a type name, a filter and an
authorization filter for which all three reach the backend, each of them sends one query, and it is the
same.  A document matches it, as it is sent, exactly when it passes both filters, so there is none when
neither filter has a condition; and to pass a filter is to be admitted by it. -/
theorem queries_agree (g : Gateway) (type : String) (filter auth : Wire) (page stream : Request)
    (want : Option ℕ) (hpage : (g.data type { page with filter } auth).calls ≠ [])
    (hcount : (g.count type filter auth).calls ≠ [])
    (hstream : (g.download type { stream with filter } auth want).calls ≠ []) :
    ∃ index query, g.indexOf type = .ok index ∧
      (g.data type { page with filter } auth).queries = [query] ∧
      (g.count type filter auth).queries = [query] ∧
      (g.download type { stream with filter } auth want).queries = [query] ∧
      (query = none ↔ filter.conditions = [] ∧ auth.conditions = []) ∧
      ∀ {δ : Type u} (I : Reading δ) (d : δ),
        (Value.Matches? I d query ↔
          (g.lexicon index).Passes I d filter ∧ (g.lexicon index).Passes I d auth) ∧
        ((g.lexicon index).Passes I d filter ↔ filter.Admits (I.Grants d)) ∧
        ((g.lexicon index).Passes I d auth ↔ auth.Admits (I.Grants d)) := by
  obtain ⟨index, hindex⟩ := indexOf_of_calls hcount
  rw [data, onType_eq hindex] at hpage ⊢
  rw [count, onType_eq hindex] at hcount ⊢
  rw [download, onType_eq hindex] at hstream ⊢
  obtain ⟨q, hq, hsent⟩ := queries_indexCount hcount
  obtain ⟨q', hq', hsent'⟩ := queries_indexData hpage
  obtain ⟨q'', hq'', hsent''⟩ := queries_indexScroll hstream
  -- all three compile the same filter on the same index
  obtain rfl : q' = q := Except.ok.inj (hq'.symm.trans hq)
  obtain rfl : q'' = q' := Except.ok.inj (hq''.symm.trans hq)
  have hparts := Lexicon.compile_of_scope hq
  refine ⟨index, queryValue q'', hindex, hsent', hsent, hsent'', ?_, ?_⟩
  · rw [queryValue, Option.map_eq_none_iff]
    exact Lexicon.compile_scope_eq_none hq
  · intro δ I d
    rw [queryValue, Fragment.matches?_map_toValue]
    exact ⟨Lexicon.matches?_scope hq, Lexicon.passes_iff_admits hparts.1,
      Lexicon.passes_iff_admits hparts.2⟩

end Gateway

def Wire.builtWomen : Wire :=
  .branch "And" [.built (.leaf ⟨"=", "gender", .str "f"⟩), .json (.obj [("or", .arr [.null])])]

namespace Gateway

theorem queries_agree_of_people :
    (people.data "person" { size := some 10, filter := .builtWomen } .ownResource).calls ≠ [] ∧
    (people.count "person" .builtWomen .ownResource).calls ≠ [] ∧
    (people.download "person" { filter := .builtWomen } .ownResource none).calls ≠ [] ∧
    ∃ index query, people.indexOf "person" = .ok index ∧
      query = some (.obj [("bool", .obj [("must", .arr [
        .obj [("bool", .obj [("must", .arr [.obj [("term", .obj [("gender", .str "f")])]])])],
        .obj [("terms", .obj [("resource", .arr [.str "/p"])])]])])]) ∧
      (people.data "person" { size := some 10, filter := .builtWomen } .ownResource).queries =
        [query] ∧
      (people.count "person" .builtWomen .ownResource).queries = [query] ∧
      (people.download "person" { filter := .builtWomen } .ownResource none).queries = [query] ∧
      (query = none ↔ Wire.builtWomen.conditions = [] ∧ Wire.ownResource.conditions = []) ∧
      ∀ {δ : Type u} (I : Reading δ) (d : δ),
        (Value.Matches? I d query ↔ (people.lexicon index).Passes I d .builtWomen ∧
          (people.lexicon index).Passes I d .ownResource) ∧
        ((people.lexicon index).Passes I d .builtWomen ↔ Wire.builtWomen.Admits (I.Grants d)) ∧
        ((people.lexicon index).Passes I d .ownResource ↔
          Wire.ownResource.Admits (I.Grants d)) := by
  have hpage : (people.data "person" { size := some 10, filter := .builtWomen } .ownResource).calls ≠
      [] := List.isEmpty_eq_false_iff.mp (by decide +kernel)
  have hcount : (people.count "person" .builtWomen .ownResource).calls ≠ [] :=
    List.isEmpty_eq_false_iff.mp (by decide +kernel)
  have hstream : (people.download "person" { filter := .builtWomen } .ownResource none).calls ≠ [] :=
    List.isEmpty_eq_false_iff.mp (by decide +kernel)
  obtain ⟨index, query, hindex, hdata, hcounted, hread, hnone, hmatches⟩ :=
    queries_agree.{u} people "person" .builtWomen .ownResource { size := some 10 } {} none hpage
      hcount hstream
  refine ⟨hpage, hcount, hstream, index, query, hindex, ?_, hdata, hcounted, hread, hnone, hmatches⟩
  exact List.singleton_inj.mp (hcounted.symm.trans (by cbv))

end Gateway

end ScopedSearch
