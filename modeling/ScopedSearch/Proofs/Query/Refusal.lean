import Mathlib.Data.List.Basic
import ScopedSearch.Proofs.Filter.Grammar
import ScopedSearch.Proofs.Query.Compile

/-!
# Why filters are refused

A filter that cannot be read is refused as it is read, whatever its conditions are.  A filter that is
read is refused exactly when one of its conditions is, and for the reason of the first one from left to
right (`refused_at_first`): no part of a group is passed over, and none is looked at after a failure.
What a condition is refused for is told by the catalog alone (`Catalog.Refuses`), unless the
authorization filter takes its place; then only that filter counts.
-/

namespace ScopedSearch

/-! ### The first failure -/

section Failure?

variable {ε α β γ : Type}

def failure? : Except ε α → Option ε
  | .error e => some e
  | .ok _ => none

@[simp] theorem failure?_eq_some {x : Except ε α} {e : ε} : failure? x = some e ↔ x = .error e := by
  cases x <;> simp [failure?]

@[simp] theorem failure?_eq_none {x : Except ε α} : failure? x = none ↔ ∀ e, x ≠ .error e := by
  cases x <;> simp [failure?]

theorem failure?_isSome {x : Except ε α} : (failure? x).isSome = true ↔ ∃ e, x = .error e := by
  cases x <;> simp [failure?]

theorem failure?_map (x : Except ε α) (f : α → β) : failure? (x.map f) = failure? x := by
  cases x <;> rfl

/-- Of two computations the second counts when the first ends well. -/
theorem failure?_pair (x : Except ε α) (y : Except ε β) (f : α → β → γ) :
    failure? (do
      let a ← x
      let b ← y
      return f a b) = (failure? x).or (failure? y) := by
  cases x <;> cases y <;> rfl

end Failure?

namespace Expr

variable {leaf : Condition → Except Failure (Option Fragment)}

mutual

/-- **A tree fails as the first of its conditions that fails.** -/
theorem failure?_compile : ∀ e : Expr,
    failure? (e.compile leaf) = e.conditions.findSome? fun l => failure? (leaf l)
  | .leaf l => by
    rw [compile, conditions, List.findSome?_singleton]
  | .group c parts => by
    rw [compile, failure?_map, conditions, failure?_compileAll]

theorem failure?_compileAll : ∀ es : List Expr,
    failure? (compileAll leaf es) = (conditionsAll es).findSome? fun l => failure? (leaf l)
  | [] => by
    rw [compileAll]
    rfl
  | e :: es => by
    rw [compileAll, failure?_pair, conditionsAll, List.findSome?_append, failure?_compile e,
      failure?_compileAll es]

end

end Expr

theorem Lexicon.failure?_compileExpr? (leaf : Condition → Except Failure (Option Fragment))
    (e : Option Expr) : failure? (compileExpr? leaf e) =
      (Expr.conditions? e).findSome? fun l => failure? (leaf l) := by
  cases e with
  | none => rfl
  | some e => exact Expr.failure?_compile e

/-! ### Filters that cannot be read -/

namespace Wire

mutual

theorem kind_of_parse {depth : Int} {f : Failure} : ∀ {w : Wire},
    w.parse depth = .error f → f.kind = .input
  | .json v, h => by
    rw [parse] at h
    exact Value.kind_of_parseFilter h
  | .built e, h => by
    rw [parse] at h
    cases h
  | .branch key parts, h => by
    rw [parse] at h
    split at h
    · split at h
      · cases h
        rfl
      · exact kind_of_parseAll (map_error_iff.mp h)
    · cases h
      rfl

theorem kind_of_parseAll {depth : Int} {f : Failure} : ∀ {ws : List Wire},
    parseAll depth ws = .error f → f.kind = .input
  | [], h => by cases h
  | w :: ws, h => by
    rw [parseAll] at h
    rcases bind_error_iff.mp h with h | ⟨e, -, h⟩
    · exact kind_of_parse h
    · rcases bind_error_iff.mp h with h | ⟨es, -, h⟩
      · exact kind_of_parseAll h
      · cases h

end

end Wire

/-! ### Conditions that are refused -/

def FieldClass.operators : FieldClass → List Operator
  | text => [.eq, .member]
  | numeric => [.eq, .member, .bound .gt, .bound .gte, .bound .lt, .bound .lte]

theorem FieldClass.allows_iff {k : FieldClass} {o : Operator} : k.allows o = true ↔ o ∈ k.operators := by
  cases k with
  | text => cases o <;> simp [allows, operators]
  | numeric =>
    cases o with
    | bound b => cases b <;> simp [allows, operators]
    | _ => simp [allows, operators]

/-- What a condition on its own account is refused for: its field is not in the catalog of the index,
or else the type of the field is in no class, or else its operator is none of the class. -/
inductive Catalog.Refuses (c : Catalog) (index : String) (l : Condition) : Failure → Prop where
  | unknown (hfield : c.fieldType? index l.field = none) : Refuses c index l (.unknownField l.field)
  | unclassified {t : FieldType} (hfield : c.fieldType? index l.field = some t)
      (hclass : TypeTables.standard.class? t.esType = none) :
      Refuses c index l (.unclassifiedType t.esType)
  | illegal {t : FieldType} {k : FieldClass} (hfield : c.fieldType? index l.field = some t)
      (hclass : TypeTables.standard.class? t.esType = some k)
      (hoperator : ∀ o ∈ k.operators, Operator.ofSpelling? l.operator ≠ some o) :
      Refuses c index l (k.refusal l)

theorem FieldClass.clause_error_iff {k : FieldClass} {l : Condition} {f : Failure} :
    k.clause l = .error f ↔
      (∀ o ∈ k.operators, Operator.ofSpelling? l.operator ≠ some o) ∧ f = k.refusal l := by
  unfold FieldClass.clause
  split
  · rename_i o ho
    by_cases hk : k.allows o = true
    · simp only [hk, ↓reduceIte, reduceCtorEq, false_iff, not_and]
      intro hnone
      exact absurd ho (hnone o (allows_iff.mp hk))
    · have hlegal : ∀ o' ∈ k.operators, some o ≠ some o' := by
        rintro o' ho' ⟨⟩
        exact hk (allows_iff.mpr ho')
      simp only [ho, hk, Bool.false_eq_true, ↓reduceIte, Except.error.injEq]
      exact ⟨fun h => ⟨hlegal, h.symm⟩, fun h => h.2.symm⟩
  · rename_i ho
    simp [ho, eq_comm]

namespace Catalog

variable {c : Catalog} {index : String} {l : Condition} {f : Failure}

theorem clause_error_iff : (c.lexicon index).clause l = .error f ↔ c.Refuses index l f := by
  have hlookup : (c.lexicon index).fields.lookup l.field = c.fieldType? index l.field := rfl
  have htables : (c.lexicon index).tables = .standard := rfl
  rw [Lexicon.clause, hlookup, htables]
  constructor
  · intro h
    split at h
    · rename_i hfield
      cases h
      exact .unknown hfield
    · rename_i t hfield
      split at h
      · rename_i hclass
        cases h
        exact .unclassified hfield hclass
      · rename_i k hclass
        obtain ⟨hoperator, rfl⟩ := FieldClass.clause_error_iff.mp h
        exact .illegal hfield hclass hoperator
  · intro h
    cases h with
    | unknown hfield => simp [hfield]
    | unclassified hfield hclass => simp [hfield, hclass]
    | illegal hfield hclass hoperator =>
      simpa [hfield, hclass] using FieldClass.clause_error_iff.mpr ⟨hoperator, rfl⟩

theorem Refuses.kind_eq (h : c.Refuses index l f) :
    (f.kind = .internal ↔ ∃ t, c.fieldType? index l.field = some t ∧
      TypeTables.standard.class? t.esType = none) ∧ (f.kind ≠ .internal → f.kind = .input) := by
  cases h with
  | unknown hfield => simp [Failure.kind, hfield]
  | unclassified hfield hclass => simp [Failure.kind, hfield, hclass]
  | @illegal t k hfield hclass hoperator =>
    cases k <;> simp [FieldClass.refusal, Failure.kind, hfield, hclass]

/-- What a condition is refused for in the filter of an aggregation.  On the field itself, when its own
filter does not count, it is what the authorization filter is refused for; otherwise it is refused on
its own account. -/
def RefusesFor (c : Catalog) (index : String) (target : Option String) (filterSelf : Bool) (auth : Wire)
    (l : Condition) (f : Failure) : Prop :=
  if target = some l.field ∧ filterSelf = false then (c.lexicon index).compile auth = .error f
  else c.Refuses index l f

variable {target : Option String} {filterSelf : Bool} {auth : Wire}

theorem leafExcept_error_iff :
    (c.lexicon index).leafExcept (Lexicon.excludedField target filterSelf) ((c.lexicon index).compile auth) l =
      .error f ↔ c.RefusesFor index target filterSelf auth l f := by
  have hexcluded : Lexicon.excludedField target filterSelf = some l.field ↔
      target = some l.field ∧ filterSelf = false := by
    cases filterSelf <;> simp [Lexicon.excludedField]
  unfold RefusesFor
  split
  · rename_i hl
    rw [Lexicon.leafExcept, if_pos (hexcluded.mpr hl)]
  · rename_i hl
    rw [Lexicon.leafExcept, if_neg fun h => hl (hexcluded.mp h), Lexicon.ownLeaf, map_error_iff,
      clause_error_iff]

theorem failure?_compileFor (c : Catalog) (index : String) (target : Option String)
    (filterSelf : Bool) (auth : Wire) {filter : Wire} {e : Option Expr} (he : filter.parse 0 = .ok e) :
    failure? ((c.lexicon index).compileFor filter target filterSelf auth) =
      (Expr.conditions? e).findSome? fun l => failure? ((c.lexicon index).leafExcept
        (Lexicon.excludedField target filterSelf) ((c.lexicon index).compile auth) l) := by
  rw [← Lexicon.failure?_compileExpr?, Lexicon.compileFor, he]
  rfl

/-- **A filter is refused for its first condition that is refused.**  A filter that cannot be read is
the caller's fault, whatever its conditions are.  Otherwise compiling fails exactly when one of the
conditions is refused, and with what the first of them from left to right is refused for; and a
condition is refused as the catalog's fault when the type of its field is in no class, and else as the
caller's. -/
theorem refused_at_first (c : Catalog) (index : String) (filter : Wire) (target : Option String)
    (filterSelf : Bool) (auth : Wire) :
    (∀ f, filter.parse 0 = .error f →
      (c.lexicon index).compileFor filter target filterSelf auth = .error f ∧ f.kind = .input) ∧
    (∀ e, filter.parse 0 = .ok e →
      ((∃ f, (c.lexicon index).compileFor filter target filterSelf auth = .error f) ↔
        ∃ l ∈ Expr.conditions? e, ∃ f, c.RefusesFor index target filterSelf auth l f) ∧
      ∀ f, (c.lexicon index).compileFor filter target filterSelf auth = .error f ↔
        ∃ before l after, Expr.conditions? e = before ++ l :: after ∧
          (∀ p ∈ before, ∀ g, ¬ c.RefusesFor index target filterSelf auth p g) ∧
          c.RefusesFor index target filterSelf auth l f) ∧
    ∀ l f, c.Refuses index l f →
      (f.kind = .internal ↔ ∃ t, c.fieldType? index l.field = some t ∧
        TypeTables.standard.class? t.esType = none) ∧
      (f.kind ≠ .internal → f.kind = .input) := by
  refine ⟨?_, ?_, fun l f h => h.kind_eq⟩
  · intro f hf
    refine ⟨?_, Wire.kind_of_parse hf⟩
    rw [Lexicon.compileFor, hf]
    rfl
  · intro e he
    have hfirst := failure?_compileFor c index target filterSelf auth he
    constructor
    · simp only [← failure?_isSome, hfirst, List.findSome?_isSome_iff]
      simp only [failure?_isSome, leafExcept_error_iff]
    · intro f
      rw [← failure?_eq_some, hfirst, List.findSome?_eq_some_iff]
      simp only [failure?_eq_some, failure?_eq_none, leafExcept_error_iff, ne_eq]
      refine exists_congr fun before => exists_congr fun l => exists_congr fun after => ?_
      rw [and_comm (a := c.RefusesFor index target filterSelf auth l f)]

end Catalog

/-- One condition that is replaced, one that is accepted, and two that are refused. -/
def Expr.faulty : Expr :=
  .group .all [.leaf ⟨"near", "age", .int 20⟩, .leaf ⟨"=", "gender", .str "f"⟩,
    .group .any [.leaf ⟨"<", "gender", .str "m"⟩, .leaf ⟨"=", "height", .int 180⟩]]

def Value.faulty : Value :=
  .obj [("and", .arr [.obj [("near", .obj [("age", .int 20)])], .obj [("=", .obj [("gender", .str "f")])],
    .obj [("or", .arr [.obj [("<", .obj [("gender", .str "m")])], .obj [("=", .obj [("height", .int 180)])]])]])]

namespace Catalog

/-- The condition on the age is not looked at, and the one on the height comes too late. -/
theorem refused_at_first_of_faulty :
    (Wire.json .faulty).parse 0 = .ok (some .faulty) ∧
    (people.lexicon "people").compileFor (.json .faulty) (some "age") false .absent =
      .error (.illegalOperator "<") ∧
    people.Refuses "people" ⟨"<", "gender", .str "m"⟩ (.illegalOperator "<") ∧
    ((Failure.illegalOperator "<").kind ≠ .internal → (Failure.illegalOperator "<").kind = .input) ∧
    (Wire.json (.bool true)).parse 0 = .error .filterSyntax ∧
    (people.lexicon "people").compileFor (.json (.bool true)) (some "age") false .absent =
      .error .filterSyntax ∧ Failure.filterSyntax.kind = .input := by
  have hread : (Wire.json .faulty).parse 0 = .ok (some .faulty) := by cbv
  have hunread : (Wire.json (.bool true)).parse 0 = .error .filterSyntax := by cbv
  have hage (f : Failure) : ¬ people.RefusesFor "people" (some "age") false .absent
      ⟨"near", "age", .int 20⟩ f := by
    have hreplaced : (people.lexicon "people").leafExcept (Lexicon.excludedField (some "age") false)
        ((people.lexicon "people").compile .absent) ⟨"near", "age", .int 20⟩ = .ok none := by cbv
    rw [← leafExcept_error_iff, hreplaced]
    simp
  have hgender (f : Failure) : ¬ people.RefusesFor "people" (some "age") false .absent
      ⟨"=", "gender", .str "f"⟩ f := by
    have haccepted : (people.lexicon "people").leafExcept (Lexicon.excludedField (some "age") false)
        ((people.lexicon "people").compile .absent) ⟨"=", "gender", .str "f"⟩ =
          .ok (some (.term "gender" (.str "f"))) := by cbv
    rw [← leafExcept_error_iff, haccepted]
    simp
  have hrefused : people.Refuses "people" ⟨"<", "gender", .str "m"⟩ (.illegalOperator "<") :=
    clause_error_iff.mp (by cbv)
  have hreplaced : people.RefusesFor "people" (some "age") false .absent ⟨"<", "gender", .str "m"⟩
      (.illegalOperator "<") := leafExcept_error_iff.mp (by cbv)
  obtain ⟨-, hcompiled, hkind⟩ :=
    refused_at_first people "people" (.json .faulty) (some "age") false .absent
  obtain ⟨hfails, hinput⟩ :=
    (refused_at_first people "people" (.json (.bool true)) (some "age") false .absent).1 _ hunread
  refine ⟨hread, ((hcompiled _ hread).2 _).mpr ⟨[⟨"near", "age", .int 20⟩, ⟨"=", "gender", .str "f"⟩],
    ⟨"<", "gender", .str "m"⟩, [⟨"=", "height", .int 180⟩], rfl, ?_, hreplaced⟩, hrefused,
    (hkind _ _ hrefused).2, hunread, hfails, hinput⟩
  simp [hage, hgender]

end Catalog

end ScopedSearch
