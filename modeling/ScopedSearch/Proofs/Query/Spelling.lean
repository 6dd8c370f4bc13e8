import ScopedSearch.Proofs.Filter.Spelling
import ScopedSearch.Proofs.Query.Aggregation

/-!
# The spelling of a filter does not matter

A condition compiles by the operator that it spells, so a tree and the tree in plain spelling have the
same outcome (`SameOutcome`): the same fragment, nothing for both, or failures of the same kind.  Two
filters of the caller that differ in their spellings alone therefore have the same outcome, both on their
own and for the aggregation of a field (`compile_respelled`).
-/

namespace ScopedSearch

/-! ### Outcomes -/

/-- Two computations have the same result, or failures of the same kind. -/
def SameOutcome {α : Type} (x y : Except Failure α) : Prop :=
  x.mapError Failure.kind = y.mapError Failure.kind

namespace SameOutcome

variable {α β : Type} {x y : Except Failure α}

@[refl] theorem refl (x : Except Failure α) : SameOutcome x x := rfl

theorem symm (h : SameOutcome x y) : SameOutcome y x := Eq.symm h

theorem trans {z : Except Failure α} (h : SameOutcome x y) (h' : SameOutcome y z) : SameOutcome x z :=
  Eq.trans h h'

theorem bind (h : SameOutcome x y) {f g : α → Except Failure β} (hfg : ∀ a, SameOutcome (f a) (g a)) :
    SameOutcome (x >>= f) (y >>= g) := by
  cases x with
  | error e =>
    cases y with
    | error e' => simpa [SameOutcome, Except.mapError, Bind.bind, Except.bind] using h
    | ok b => simp [SameOutcome, Except.mapError] at h
  | ok a =>
    cases y with
    | error e' => simp [SameOutcome, Except.mapError] at h
    | ok b =>
      have hab : a = b := by simpa [SameOutcome, Except.mapError] using h
      subst hab
      exact hfg a

theorem map (h : SameOutcome x y) (f : α → β) : SameOutcome (x.map f) (y.map f) := by
  have hbind : ∀ z : Except Failure α, z.map f = z >>= fun a => .ok (f a) := by
    intro z
    cases z <;> rfl
  rw [hbind, hbind]
  exact h.bind fun a => .refl _

end SameOutcome

/-! ### Conditions -/

theorem FieldClass.clause_plain (k : FieldClass) (l : Condition) :
    SameOutcome (k.clause l) (k.clause l.plain) := by
  have hspelled : Operator.ofSpelling? l.plain.operator = Operator.ofSpelling? l.operator :=
    Operator.ofSpelling?_plain l.operator
  have hrefused : SameOutcome (α := Fragment) (.error (k.refusal l)) (.error (k.refusal l.plain)) := by
    cases k <;> rfl
  rw [clause, clause, hspelled]
  cases Operator.ofSpelling? l.operator with
  | none => exact hrefused
  | some o =>
    by_cases hallows : k.allows o = true
    · simp only [hallows, if_true]
      rfl
    · simp only [hallows]
      exact hrefused

namespace Lexicon

variable {lex : Lexicon}

theorem clause_plain (l : Condition) : SameOutcome (lex.clause l) (lex.clause l.plain) := by
  have hfield : l.plain.field = l.field := rfl
  rw [clause, clause, hfield]
  cases lex.fields.lookup l.field with
  | none => rfl
  | some t =>
    dsimp only
    cases lex.tables.class? t.esType with
    | none => rfl
    | some k => exact k.clause_plain l

/-- What becomes of a condition does not depend on how its operator is spelled. -/
theorem leafExcept_plain (excluded : Option String) (substitute : Except Failure (Option Fragment))
    (l : Condition) :
    SameOutcome (lex.leafExcept excluded substitute l) (lex.leafExcept excluded substitute l.plain) := by
  have hfield : l.plain.field = l.field := rfl
  rw [leafExcept, leafExcept, hfield]
  by_cases hexcluded : excluded = some l.field
  · rw [if_pos hexcluded, if_pos hexcluded]
  · rw [if_neg hexcluded, if_neg hexcluded]
    exact (clause_plain l).map some

end Lexicon

/-! ### Trees -/

namespace Expr

section Compile

variable {leaf : Condition → Except Failure (Option Fragment)}

mutual

theorem compile_plain (hleaf : ∀ l, SameOutcome (leaf l) (leaf l.plain)) :
    ∀ e : Expr, SameOutcome (e.compile leaf) (e.plain.compile leaf)
  | .leaf l => by
    rw [plain, compile, compile]
    exact hleaf l
  | .group c parts => by
    rw [plain, compile, compile]
    exact (compileAll_plain hleaf parts).map (joinParts c)

theorem compileAll_plain (hleaf : ∀ l, SameOutcome (leaf l) (leaf l.plain)) :
    ∀ es : List Expr, SameOutcome (compileAll leaf es) (compileAll leaf (plainAll es))
  | [] => .refl _
  | e :: es => by
    rw [plainAll, compileAll, compileAll]
    exact (compile_plain hleaf e).bind fun f => (compileAll_plain hleaf es).bind fun fs => .refl _

end

theorem compileExpr?_plain (hleaf : ∀ l, SameOutcome (leaf l) (leaf l.plain)) (e : Option Expr) :
    SameOutcome (Lexicon.compileExpr? leaf e) (Lexicon.compileExpr? leaf (e.map plain)) := by
  cases e with
  | none => rfl
  | some e => exact compile_plain hleaf e

end Compile

mutual

theorem requires_plain (field : String) : ∀ e : Expr, e.plain.requires field = e.requires field
  | .leaf l => rfl
  | .group .all parts => by rw [plain, requires, requires, requiresOne_plain field parts]
  | .group .any parts => by rw [plain, requires, requires]

theorem requiresOne_plain (field : String) :
    ∀ es : List Expr, requiresOne field (plainAll es) = requiresOne field es
  | [] => rfl
  | e :: es => by rw [plainAll, requiresOne, requiresOne, requires_plain field e,
      requiresOne_plain field es]

end

theorem requires?_plain (field : String) (e : Option Expr) :
    requires? field (e.map plain) = requires? field e := by
  cases e with
  | none => rfl
  | some e => exact requires_plain field e

end Expr

/-! ### Filters -/

/-- What is done with the tree of a filter has the same outcome for different spellings, when it has the
same outcome for a tree and the tree in plain spelling. -/
theorem sameOutcome_of_respells {α : Type} {v v' : Value} (h : v.Respells v')
    {next : Option Expr → Except Failure α}
    (hnext : ∀ e, SameOutcome (next e) (next (e.map Expr.plain))) :
    SameOutcome ((Wire.json v).parse 0 >>= next) ((Wire.json v').parse 0 >>= next) := by
  have hplain : ∀ u : Value, SameOutcome ((Wire.json u).parse 0 >>= next) (u.readPlain 0 >>= next) := by
    intro u
    rw [Wire.parse, Value.readPlain]
    cases u.parseFilter 0 with
    | error f => rfl
    | ok e => exact hnext e
  have hread : v.readPlain 0 = v'.readPlain 0 := Value.readPlain_of_respells h 0
  exact (hplain v).trans (hread ▸ (hplain v').symm)

namespace Lexicon

/-- **The spelling of a filter does not matter.**  Two filters of the caller that differ only in the letters
of their connectives and in the spellings of their operators have the same outcome on every index: the
same fragment, nothing for both, or failures of the same kind.  This holds for the filter on its own,
without the conditions on a field, and for the aggregation of a field, under any authorization. -/
theorem compile_respelled (c : Catalog) (index : String) (filterSelf : Bool) (auth : Wire)
    {v v' : Value} (h : v.Respells v') :
    (∀ target : Option String,
      SameOutcome ((c.lexicon index).compileFor (.json v) target filterSelf auth)
        ((c.lexicon index).compileFor (.json v') target filterSelf auth)) ∧
    ∀ target : String,
      SameOutcome ((c.lexicon index).compileAggregation (.json v) target filterSelf auth)
        ((c.lexicon index).compileAggregation (.json v') target filterSelf auth) := by
  refine ⟨fun target => ?_, fun target => ?_⟩
  · exact sameOutcome_of_respells h fun e => Expr.compileExpr?_plain (leafExcept_plain _ _) e
  · refine sameOutcome_of_respells h fun e => ?_
    rw [Expr.requires?_plain]
    exact (Expr.compileExpr?_plain (leafExcept_plain _ _) e).bind fun client => .refl _

end Lexicon

def Value.adultWomen : Value :=
  .obj [("and", .arr [.obj [("=", .obj [("gender", .str "f")])],
    .obj [("or", .arr [.obj [(">=", .obj [("age", .int 20)])]])]])]

def Value.loudAdultWomen : Value :=
  .obj [("AND", .arr [.obj [("EQ", .obj [("gender", .str "f")])],
    .obj [("Or", .arr [.obj [("GTE", .obj [("age", .int 20)])]])]])]

theorem Value.respells_adultWomen : Value.adultWomen.Respells .loudAdultWomen := by
  have hall : Connective.all.Spells "and" ∧ Connective.all.Spells "AND" := by
    simp only [Connective.spells_iff]
    decide +kernel
  have hany : Connective.any.Spells "or" ∧ Connective.any.Spells "Or" := by
    simp only [Connective.spells_iff]
    decide +kernel
  have hgender : Respells (.obj [("=", .obj [("gender", .str "f")])])
      (.obj [("EQ", .obj [("gender", .str "f")])]) :=
    .condition (o := .eq) (by decide +kernel) (by decide +kernel) _
  have hage : Respells (.obj [(">=", .obj [("age", .int 20)])])
      (.obj [("GTE", .obj [("age", .int 20)])]) :=
    .condition (o := .bound .gte) (by decide +kernel) (by decide +kernel) _
  have hpart := Respells.group hany.1 hany.2 (.cons hage .nil)
  exact .group hall.1 hall.2 (.cons hgender (.cons hpart .nil))

def Value.boundedGender (operator : String) : Value := .obj [(operator, .obj [("gender", .str "f")])]

namespace Lexicon

/-- The bound is refused under both of its spellings, each time with a message that names it so. -/
theorem compile_respelled_of_people :
    Value.adultWomen.Respells .loudAdultWomen ∧
    (Catalog.people.lexicon "people").compileFor (.json .loudAdultWomen) none true .ownResources =
      .ok (some (.bool .all [.term "gender" (.str "f"), .bool .any [.range .gte "age" (.int 20)]])) ∧
    SameOutcome
      ((Catalog.people.lexicon "people").compileFor (.json .adultWomen) none true .ownResources)
      ((Catalog.people.lexicon "people").compileFor (.json .loudAdultWomen) none true .ownResources) ∧
    (Value.boundedGender ">").Respells (.boundedGender "GT") ∧
    (Catalog.people.lexicon "people").compileAggregation (.json (.boundedGender ">")) "age" true
      .ownResources = .error (.illegalOperator ">") ∧
    SameOutcome
      ((Catalog.people.lexicon "people").compileAggregation (.json (.boundedGender ">")) "age" true
        .ownResources)
      ((Catalog.people.lexicon "people").compileAggregation (.json (.boundedGender "GT")) "age" true
        .ownResources) := by
  have hbound : (Value.boundedGender ">").Respells (.boundedGender "GT") :=
    .condition (o := .bound .gt) (by decide +kernel) (by decide +kernel) _
  obtain ⟨hown, -⟩ := compile_respelled Catalog.people "people" true .ownResources
    Value.respells_adultWomen
  obtain ⟨-, haggregation⟩ := compile_respelled Catalog.people "people" true .ownResources hbound
  exact ⟨Value.respells_adultWomen, by cbv, hown none, hbound, by cbv, haggregation "age"⟩

end Lexicon

end ScopedSearch
