import ScopedSearch.Query.Compile
import ScopedSearch.Proofs.Filter.Reading

/-!
# Compiling keeps the meaning

A filter that compiles gives nothing exactly when it has no condition, and otherwise a query that is
matched, as it is sent, by what the filter admits (`compile_meaning`).  The induction is over trees, and
it is told once for any treatment of single conditions: all that is asked is that every condition that
is accepted becomes a fragment of its own meaning.
-/

namespace ScopedSearch

universe u

variable {δ : Type u}

/-- Whether a document is granted by a condition: its field stands to the value as the operator asks
that is spelled. -/
def Reading.Grants (I : Reading δ) (d : δ) (l : Condition) : Prop :=
  ∃ o : Operator, o.Spells l.operator ∧ I o l.field l.value d

theorem Reading.grants_iff {I : Reading δ} {d : δ} {l : Condition} {o : Operator}
    (ho : Operator.ofSpelling? l.operator = some o) : I.Grants d l ↔ I o l.field l.value d := by
  simp [Grants, ← Operator.ofSpelling?_eq_some_iff, ho]

/-- An index with a text, a number and the resource of each person. -/
def Catalog.people : Catalog :=
  ⟨[("people", [("gender", .mk "keyword" false none), ("age", .mk "integer" false none),
    ("resource", .mk "keyword" false none)])]⟩

/-- The empty parts are to be dropped, and the operators and connectives are spelled in many ways. -/
def Wire.femaleOfAge : Wire :=
  .json (.obj [("AND", .arr [.obj [("=", .obj [("gender", .str "f")])], .null,
    .obj [("Or", .arr [.obj []])],
    .obj [("or", .arr [.obj [("GTE", .obj [("age", .int 20)])],
      .obj [("in", .obj [("age", .arr [.int 3])])]])]])])

/-! ### Conditions -/

theorem FieldClass.clause_ok {k : FieldClass} {l : Condition} {f : Fragment}
    (h : k.clause l = .ok f) :
    ∃ o, Operator.ofSpelling? l.operator = some o ∧ k.allows o = true ∧
      f = .ofOperator o l.field l.value := by
  unfold FieldClass.clause at h
  split at h
  · rename_i o ho
    split at h
    · rename_i hk
      exact ⟨o, ho, hk, by simpa using h.symm⟩
    · cases h
  · cases h

/-- A condition that is accepted has a known field, whose type has a class that knows the operator. -/
theorem Lexicon.clause_ok {lex : Lexicon} {l : Condition} {f : Fragment}
    (h : lex.clause l = .ok f) :
    ∃ t k o, lex.fields.lookup l.field = some t ∧ lex.tables.class? t.esType = some k ∧
      Operator.ofSpelling? l.operator = some o ∧ k.allows o = true ∧
      f = .ofOperator o l.field l.value := by
  unfold Lexicon.clause at h
  split at h
  · cases h
  · rename_i t ht
    split at h
    · cases h
    · rename_i k hk
      obtain ⟨o, ho, ha, rfl⟩ := FieldClass.clause_ok h
      exact ⟨t, k, o, ht, hk, ho, ha, rfl⟩

theorem Lexicon.ownLeaf_ok {lex : Lexicon} {l : Condition} {f : Option Fragment}
    (h : lex.ownLeaf l = .ok f) :
    ∃ g, f = some g ∧ ∀ (I : Reading δ) d, g.Matches I d ↔ I.Grants d l := by
  obtain ⟨g, hg, rfl⟩ := map_ok_iff.mp h
  obtain ⟨-, -, o, -, -, ho, -, rfl⟩ := Lexicon.clause_ok hg
  exact ⟨_, rfl, fun I d => by rw [Fragment.matches_ofOperator, Reading.grants_iff ho]⟩

/-! ### Trees -/

theorem joinParts_eq_none {c : Connective} {fs : List Fragment} : joinParts c fs = none ↔ fs = [] := by
  cases fs <;> simp [joinParts]

theorem joinParts_eq_some {c : Connective} {fs : List Fragment} {f : Fragment} :
    joinParts c fs = some f ↔ fs ≠ [] ∧ f = .bool c fs := by
  cases fs <;> simp [joinParts, eq_comm]

namespace Expr

variable {leaf : Condition → Except Failure (Option Fragment)}

theorem compileAll_cons {e : Expr} {es : List Expr} {fs : List Fragment}
    (h : compileAll leaf (e :: es) = .ok fs) :
    ∃ f rest, e.compile leaf = .ok f ∧ compileAll leaf es = .ok rest ∧
      fs = consFragment f rest := by
  rw [compileAll] at h
  obtain ⟨f, hf, h⟩ := bind_ok_iff.mp h
  obtain ⟨rest, hrest, h⟩ := bind_ok_iff.mp h
  exact ⟨f, rest, hf, hrest, (pure_ok_iff.mp h).symm⟩

theorem compileAll_consPresent (e : Option Expr) (es : List Expr) :
    compileAll leaf (consPresent e es) = do
      let f ← Lexicon.compileExpr? leaf e
      let fs ← compileAll leaf es
      return consFragment f fs := by
  cases e with
  | none =>
    rw [consPresent, Lexicon.compileExpr?]
    cases compileAll leaf es <;> rfl
  | some e => rfl

/-- Every condition that is accepted becomes a fragment. -/
def Kept (leaf : Condition → Except Failure (Option Fragment)) : Prop :=
  ∀ l f, leaf l = .ok f → f ≠ none

mutual

theorem compile_eq_none (hk : Kept leaf) : ∀ {e : Expr} {f : Option Fragment},
    e.compile leaf = .ok f → (f = none ↔ e.conditions = [])
  | .leaf l, f, h => by
    rw [compile] at h
    simp [conditions, hk l f h]
  | .group c parts, f, h => by
    rw [compile] at h
    obtain ⟨fs, hfs, rfl⟩ := map_ok_iff.mp h
    rw [joinParts_eq_none, conditions, compileAll_eq_nil hk hfs]

theorem compileAll_eq_nil (hk : Kept leaf) : ∀ {es : List Expr} {fs : List Fragment},
    compileAll leaf es = .ok fs → (fs = [] ↔ conditionsAll es = [])
  | [], fs, h => by cases h; simp [conditionsAll]
  | e :: es, fs, h => by
    obtain ⟨f, rest, hf, hrest, rfl⟩ := compileAll_cons h
    have he := compile_eq_none hk hf
    have hes := compileAll_eq_nil hk hrest
    cases f <;> simp_all [conditionsAll, consFragment]

end

section Meaning

variable {I : Reading δ} {d : δ} {sat : Condition → Prop}

/-- What becomes of a condition matches the documents that the condition is satisfied by. -/
def Faithful (I : Reading δ) (d : δ) (sat : Condition → Prop)
    (leaf : Condition → Except Failure (Option Fragment)) : Prop :=
  ∀ l g, leaf l = .ok (some g) → (g.Matches I d ↔ sat l)

mutual

theorem compile_matches (hk : Kept leaf) (hl : Faithful I d sat leaf) :
    ∀ {e : Expr} {g : Fragment}, e.compile leaf = .ok (some g) → (g.Matches I d ↔ e.Holds sat)
  | .leaf l, g, h => by
    rw [compile] at h
    rw [Holds, hl l g h]
  | .group c parts, g, h => by
    rw [compile] at h
    obtain ⟨fs, hfs, hg⟩ := map_ok_iff.mp h
    obtain ⟨-, rfl⟩ := joinParts_eq_some.mp hg
    rw [Fragment.Matches, Holds, compileAll_matches hk hl hfs]

theorem compileAll_matches (hk : Kept leaf) (hl : Faithful I d sat leaf) :
    ∀ {es : List Expr} {fs : List Fragment}, compileAll leaf es = .ok fs →
      Fragment.matchesEach I d fs = verdicts sat es
  | [], fs, h => by cases h; rfl
  | e :: es, fs, h => by
    obtain ⟨f, rest, hf, hrest, rfl⟩ := compileAll_cons h
    have hes := compileAll_matches hk hl hrest
    cases f with
    | none =>
      have he := (compile_eq_none hk hf).mp rfl
      simpa [consFragment, verdicts, he] using hes
    | some g =>
      have he : e.conditions ≠ [] := by
        intro h
        cases (compile_eq_none hk hf).mpr h
      rw [consFragment, Fragment.matchesEach, propext (compile_matches hk hl hf), hes, verdicts,
        if_neg (by simpa using he)]

end

end Meaning

end Expr

/-! ### Filters -/

namespace Lexicon

variable {leaf : Condition → Except Failure (Option Fragment)} {filter : Wire} {e : Option Expr}
  {f : Option Fragment}

/-- What a tree compiles to is matched by the documents that the tree admits. -/
theorem matches?_compileExpr? {I : Reading δ} {d : δ} {sat : Condition → Prop} (hk : Expr.Kept leaf)
    (hl : Expr.Faithful I d sat leaf) (hf : compileExpr? leaf e = .ok f) :
    Fragment.Matches? I d f ↔ Expr.Admits? sat e := by
  cases e with
  | none =>
    cases hf
    simp [Fragment.Matches?, Expr.Admits?, Expr.Holds?]
  | some e =>
    have hnone := Expr.compile_eq_none hk hf
    cases f with
    | none => simp [Fragment.Matches?, Expr.Admits?, Expr.conditions?, hnone.mp rfl]
    | some g =>
      have hne : e.conditions ≠ [] := fun hnil => by cases hnone.mpr hnil
      simp [Fragment.Matches?, Expr.Admits?, Expr.conditions?, Expr.Holds?, hne,
        Expr.compile_matches hk hl hf]

variable {lex : Lexicon}

theorem kept_ownLeaf : Expr.Kept lex.ownLeaf := by
  intro l f h
  obtain ⟨g, rfl, -⟩ := ownLeaf_ok (δ := Unit) h
  simp

theorem faithful_ownLeaf (I : Reading δ) (d : δ) :
    Expr.Faithful I d (I.Grants d) lex.ownLeaf := by
  intro l g h
  obtain ⟨g', hg, hm⟩ := ownLeaf_ok h
  cases hg
  exact hm I d

theorem compile_eq_none (h : lex.compile filter = .ok f) : f = none ↔ filter.conditions = [] := by
  obtain ⟨e, he, hf⟩ := bind_ok_iff.mp h
  rw [← Wire.conditions_of_parse he]
  cases e with
  | none => cases hf; simp [Expr.conditions?]
  | some e => exact Expr.compile_eq_none kept_ownLeaf hf

/-- What a filter compiles to matches the documents for which the filter holds. -/
theorem compile_matches {g : Fragment} (h : lex.compile filter = .ok (some g)) (I : Reading δ)
    (d : δ) : g.Matches I d ↔ filter.Holds (I.Grants d) := by
  obtain ⟨e, he, hf⟩ := bind_ok_iff.mp h
  rw [← Wire.holds_of_parse _ he]
  cases e with
  | none => cases hf
  | some e => exact Expr.compile_matches kept_ownLeaf (faithful_ownLeaf I d) hf

/-- What a filter compiles to, if it gives anything, matches the documents that the filter admits. -/
theorem matches?_compile (h : lex.compile filter = .ok f) (I : Reading δ) (d : δ) :
    Fragment.Matches? I d f ↔ filter.Admits (I.Grants d) := by
  obtain ⟨e, he, hf⟩ := bind_ok_iff.mp h
  rw [matches?_compileExpr? kept_ownLeaf (faithful_ownLeaf I d) hf, Wire.admits_of_parse _ he]

theorem compileFor_none (filterSelf : Bool) (auth : Wire) :
    lex.compileFor filter none filterSelf auth = lex.compile filter := by
  cases filterSelf <;> rfl

/-- **Compiling keeps the meaning.**  Without a target field, a filter that compiles gives nothing
exactly when it has no condition; otherwise a document matches the query that is sent, under any
reading of the clauses, exactly when the filter holds for it. -/
theorem compile_meaning (c : Catalog) (index : String) (filter : Wire) (filterSelf : Bool)
    (auth : Wire) {f : Option Fragment}
    (h : (c.lexicon index).compileFor filter none filterSelf auth = .ok f) :
    (f = none ↔ filter.conditions = []) ∧
    ∀ g, f = some g → ∀ {δ : Type u} (I : Reading δ) (d : δ),
      g.toValue.Matches I d ↔ filter.Holds (I.Grants d) := by
  rw [compileFor_none] at h
  refine ⟨compile_eq_none h, ?_⟩
  rintro g rfl δ I d
  rw [Fragment.matches_toValue]
  exact compile_matches h I d

theorem compile_meaning_of_people :
    ∃ g, (Catalog.people.lexicon "people").compileFor Wire.femaleOfAge none true .absent =
        .ok (some g) ∧
      g.toValue = .obj [("bool", .obj [("must", .arr [
        .obj [("term", .obj [("gender", .str "f")])],
        .obj [("bool", .obj [("should", .arr [
          .obj [("range", .obj [("age", .obj [("gte", .int 20)])])],
          .obj [("terms", .obj [("age", .arr [.int 3])])]])])]])])] ∧
      (some g = none ↔ Wire.femaleOfAge.conditions = []) ∧
      ∀ {δ : Type u} (I : Reading δ) (d : δ),
        g.toValue.Matches I d ↔ Wire.femaleOfAge.Holds (I.Grants d) := by
  have hcompiled : (Catalog.people.lexicon "people").compileFor Wire.femaleOfAge none true .absent =
      .ok (some (.bool .all [.term "gender" (.str "f"),
        .bool .any [.range .gte "age" (.int 20), .terms "age" (.arr [.int 3])]])) := by cbv
  obtain ⟨hnone, hmatches⟩ :=
    compile_meaning Catalog.people "people" Wire.femaleOfAge true .absent hcompiled
  exact ⟨_, hcompiled, by rfl, hnone, hmatches _ rfl⟩

end Lexicon

end ScopedSearch
