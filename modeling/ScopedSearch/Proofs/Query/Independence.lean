import Mathlib.Data.List.Basic
import ScopedSearch.Proofs.Query.Aggregation

/-!
# An aggregation does not depend on the field's own filter

When the field's own filter does not count, the filter of its aggregation is the same for any two
filters of the caller that are alike but for the operators and values of the conditions on that field
(`compileAggregation_alike`): the same fragment, nothing for both, or the same failure.  Such a
condition is neither checked nor compared with anything; only its place in the tree has a say.
-/

namespace ScopedSearch

namespace Expr

variable {field : String}

mutual

/-- Two trees are alike but for the operators and values of the conditions on a field. -/
def Alike (field : String) : Expr → Expr → Prop
  | .leaf l, .leaf l' => l = l' ∨ l.field = field ∧ l'.field = field
  | .group c parts, .group c' parts' => c = c' ∧ AlikeAll field parts parts'
  | _, _ => False

def AlikeAll (field : String) : List Expr → List Expr → Prop
  | [], [] => True
  | e :: es, e' :: es' => Alike field e e' ∧ AlikeAll field es es'
  | _, _ => False

end

def Alike? (field : String) : Option Expr → Option Expr → Prop
  | none, none => True
  | some e, some e' => e.Alike field e'
  | _, _ => False

section Compile

variable {leaf : Condition → Except Failure (Option Fragment)}

mutual

/-- When the same becomes of all conditions on a field, trees that are alike compile to the same. -/
theorem compile_alike (hleaf : ∀ l l' : Condition, l.field = field → l'.field = field → leaf l = leaf l') :
    ∀ {e e' : Expr}, e.Alike field e' → e.compile leaf = e'.compile leaf
  | .leaf l, .leaf l', h => by
    rw [Alike] at h
    rw [compile, compile]
    rcases h with rfl | ⟨hl, hl'⟩
    · rfl
    · exact hleaf l l' hl hl'
  | .group c parts, .group c' parts', h => by
    rw [Alike] at h
    obtain ⟨rfl, hparts⟩ := h
    rw [compile, compile, compileAll_alike hleaf hparts]
  | .leaf _, .group _ _, h => by simp [Alike] at h
  | .group _ _, .leaf _, h => by simp [Alike] at h

theorem compileAll_alike
    (hleaf : ∀ l l' : Condition, l.field = field → l'.field = field → leaf l = leaf l') :
    ∀ {es es' : List Expr}, AlikeAll field es es' → compileAll leaf es = compileAll leaf es'
  | [], [], _ => rfl
  | e :: es, e' :: es', h => by
    rw [AlikeAll] at h
    rw [compileAll, compileAll, compile_alike hleaf h.1, compileAll_alike hleaf h.2]
  | [], _ :: _, h => by simp [AlikeAll] at h
  | _ :: _, [], h => by simp [AlikeAll] at h

end

theorem compileExpr?_alike
    (hleaf : ∀ l l' : Condition, l.field = field → l'.field = field → leaf l = leaf l')
    {e e' : Option Expr} (h : Alike? field e e') :
    Lexicon.compileExpr? leaf e = Lexicon.compileExpr? leaf e' := by
  cases e <;> cases e'
  · rfl
  · exact h.elim
  · exact h.elim
  · exact compile_alike hleaf h

end Compile

mutual

theorem requires_alike : ∀ {e e' : Expr}, e.Alike field e' → e.requires field = e'.requires field
  | .leaf l, .leaf l', h => by
    rw [Alike] at h
    rcases h with rfl | ⟨hl, hl'⟩
    · rfl
    · simp [requires, hl, hl']
  | .group c parts, .group c' parts', h => by
    rw [Alike] at h
    obtain ⟨rfl, hparts⟩ := h
    cases c with
    | all => rw [requires, requires, requiresOne_alike hparts]
    | any => rw [requires, requires]
  | .leaf _, .group _ _, h => by simp [Alike] at h
  | .group _ _, .leaf _, h => by simp [Alike] at h

theorem requiresOne_alike : ∀ {es es' : List Expr}, AlikeAll field es es' →
    requiresOne field es = requiresOne field es'
  | [], [], _ => rfl
  | e :: es, e' :: es', h => by
    rw [AlikeAll] at h
    rw [requiresOne, requiresOne, requires_alike h.1, requiresOne_alike h.2]
  | [], _ :: _, h => by simp [AlikeAll] at h
  | _ :: _, [], h => by simp [AlikeAll] at h

end

theorem requires?_alike {e e' : Option Expr} (h : Alike? field e e') :
    requires? field e = requires? field e' := by
  cases e <;> cases e'
  · rfl
  · exact h.elim
  · exact h.elim
  · exact requires_alike h

end Expr

namespace Lexicon

theorem leafExcept_target {lex : Lexicon} {target : String}
    {substitute : Except Failure (Option Fragment)} {l : Condition} (hl : l.field = target) :
    lex.leafExcept (excludedField (some target) false) substitute l = substitute := by
  rw [leafExcept, if_pos (by simp [excludedField, hl])]

/-- **An aggregation does not depend on the field's own filter.**  When that filter does not count, two
filters of the caller whose trees are alike but for the operators and values of the conditions on the
field have the same outcome, whether it is a fragment, nothing, or a failure. -/
theorem compileAggregation_alike (c : Catalog) (index target : String) (auth : Wire)
    {filter filter' : Wire} {e e' : Option Expr} (he : filter.parse 0 = .ok e)
    (he' : filter'.parse 0 = .ok e') (h : Expr.Alike? target e e') :
    (c.lexicon index).compileAggregation filter target false auth =
      (c.lexicon index).compileAggregation filter' target false auth := by
  have hleaf : ∀ l l' : Condition, l.field = target → l'.field = target →
      (c.lexicon index).leafExcept (excludedField (some target) false)
        ((c.lexicon index).compile auth) l =
      (c.lexicon index).leafExcept (excludedField (some target) false)
        ((c.lexicon index).compile auth) l' := by
    intro l l' hl hl'
    rw [leafExcept_target hl, leafExcept_target hl']
  rw [compileAggregation, compileAggregation, he, he']
  simp only [bind, Except.bind, Expr.compileExpr?_alike hleaf h, Expr.requires?_alike h]

end Lexicon

def Wire.nearOrAdult : Wire :=
  .json (.obj [("or", .arr [.obj [("near", .obj [("gender", .int 7)])],
    .obj [(">=", .obj [("age", .int 20)])]])])

namespace Lexicon

/-- The second filter is refused when its condition on the gender counts. -/
theorem compileAggregation_alike_of_people :
    Wire.femaleOrAdult.parse 0 = .ok (some (.group .any [.leaf ⟨"=", "gender", .str "f"⟩,
      .leaf ⟨">=", "age", .int 20⟩])) ∧
    Wire.nearOrAdult.parse 0 = .ok (some (.group .any [.leaf ⟨"near", "gender", .int 7⟩,
      .leaf ⟨">=", "age", .int 20⟩])) ∧
    Expr.Alike? "gender" (some (.group .any [.leaf ⟨"=", "gender", .str "f"⟩,
      .leaf ⟨">=", "age", .int 20⟩])) (some (.group .any [.leaf ⟨"near", "gender", .int 7⟩,
      .leaf ⟨">=", "age", .int 20⟩])) ∧
    (Catalog.people.lexicon "people").compileAggregation .nearOrAdult "gender" true .ownResources =
      .error (.illegalOperator "near") ∧
    (Catalog.people.lexicon "people").compileAggregation .femaleOrAdult "gender" false .ownResources =
      (Catalog.people.lexicon "people").compileAggregation .nearOrAdult "gender" false
        .ownResources := by
  have hfemale : Wire.femaleOrAdult.parse 0 = .ok (some (.group .any
      [.leaf ⟨"=", "gender", .str "f"⟩, .leaf ⟨">=", "age", .int 20⟩])) := by cbv
  have hnear : Wire.nearOrAdult.parse 0 = .ok (some (.group .any
      [.leaf ⟨"near", "gender", .int 7⟩, .leaf ⟨">=", "age", .int 20⟩])) := by cbv
  have halike : Expr.Alike? "gender" (some (.group .any [.leaf ⟨"=", "gender", .str "f"⟩,
      .leaf ⟨">=", "age", .int 20⟩])) (some (.group .any [.leaf ⟨"near", "gender", .int 7⟩,
      .leaf ⟨">=", "age", .int 20⟩])) := by
    simp [Expr.Alike?, Expr.Alike, Expr.AlikeAll]
  exact ⟨hfemale, hnear, halike, by cbv,
    compileAggregation_alike Catalog.people "people" "gender" .ownResources hfemale hnear halike⟩

end Lexicon

end ScopedSearch
