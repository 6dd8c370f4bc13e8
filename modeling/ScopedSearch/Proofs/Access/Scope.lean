import ScopedSearch.Proofs.Query.Compile

/-!
# Scoped filters

A filter that is scoped by another admits what both of them admit (`scope_admits`), and the filters
of an accessibility hold for the documents whose resource is in reach, or out of reach
(`matches_of_compile_scope`).  The scope always has a condition, also when no resource is in it, so a
scoped filter never compiles to nothing.
-/

namespace ScopedSearch

universe u

variable {δ : Type u}

/-! ### Filters that are not given -/

theorem Value.conditions_of_not_truthy {v : Value} (h : v.truthy = false) : v.conditions = [] := by
  cases v with
  | obj es =>
    cases es with
    | nil => rfl
    | cons e es => simp [truthy] at h
  | _ => rfl

namespace Wire

theorem conditions_of_not_truthy {w : Wire} (h : w.truthy = false) : w.conditions = [] := by
  cases w with
  | json v =>
    rw [conditions]
    exact Value.conditions_of_not_truthy h
  | built e => simp [truthy] at h
  | branch key parts => simp [truthy] at h

theorem admits_of_conditions_eq_nil {w : Wire} {sat : Condition → Prop} (h : w.conditions = []) :
    w.Admits sat := fun hne => absurd h hne

theorem admits_iff_holds {w : Wire} {sat : Condition → Prop} (h : w.conditions ≠ []) :
    w.Admits sat ↔ w.Holds sat := by
  constructor
  · intro hw
    exact hw h
  · intro hw _
    exact hw

/-! ### Joining -/

theorem ofKey?_and : Connective.ofKey? "AND" = some .all := by decide +kernel

theorem conditions_and (f a : Wire) :
    (branch "AND" [f, a]).conditions = f.conditions ++ a.conditions := by
  simp [conditions_branch ofKey?_and, conditionsAll]

/-- A filter that is not given does not count in a scoped filter. -/
theorem scope_cases (f a : Wire) :
    (a.conditions = [] ∧ f.scope a = f) ∨ (f.conditions = [] ∧ f.scope a = a) ∨
      f.scope a = branch "AND" [f, a] := by
  unfold scope
  split
  · rename_i ha
    exact .inl ⟨conditions_of_not_truthy (by simpa using ha), rfl⟩
  split
  · rename_i hf
    exact .inr (.inl ⟨conditions_of_not_truthy (by simpa using hf), rfl⟩)
  · exact .inr (.inr rfl)

theorem conditions_scope (f a : Wire) : (f.scope a).conditions = f.conditions ++ a.conditions := by
  rcases scope_cases f a with ⟨ha, h⟩ | ⟨hf, h⟩ | h
  · rw [h, ha, List.append_nil]
  · rw [h, hf, List.nil_append]
  · rw [h, conditions_and]

theorem verdicts_cons {sat : Condition → Prop} (w : Wire) (ws : List Wire) :
    Connective.all.Joins (verdicts sat (w :: ws)) ↔
      w.Admits sat ∧ Connective.all.Joins (verdicts sat ws) := by
  rw [verdicts]
  by_cases h : w.conditions = []
  · simp [h, admits_of_conditions_eq_nil h]
  · rw [if_neg (by simpa using h), Connective.joins_all_cons, admits_iff_holds h]

/-- **A scoped filter admits what both filters admit.** -/
theorem scope_admits {sat : Condition → Prop} (f a : Wire) :
    (f.scope a).Admits sat ↔ f.Admits sat ∧ a.Admits sat := by
  rcases scope_cases f a with ⟨ha, h⟩ | ⟨hf, h⟩ | h
  · simp [h, admits_of_conditions_eq_nil ha]
  · simp [h, admits_of_conditions_eq_nil hf]
  · by_cases hne : (branch "AND" [f, a]).conditions = []
    · have hparts := hne
      rw [conditions_and, List.append_eq_nil_iff] at hparts
      simp [h, admits_of_conditions_eq_nil hne, admits_of_conditions_eq_nil hparts.1,
        admits_of_conditions_eq_nil hparts.2]
    · rw [h, admits_iff_holds hne, holds_branch sat ofKey?_and, verdicts_cons, verdicts_cons]
      simp [verdicts]

end Wire

/-! ### The filters of an accessibility -/

namespace Accessibility

def scopeOf (field : String) (vs : List Value) : Wire := .json (among field vs)

theorem ofKey?_in : Connective.ofKey? "in" = none := by decide +kernel

theorem ofSpelling?_in : Operator.ofSpelling? "in" = some .member := by decide +kernel

theorem conditions_scopeOf (field : String) (vs : List Value) :
    (scopeOf field vs).conditions = [⟨"in", field, .arr vs⟩] := by
  rw [scopeOf, Wire.conditions]
  exact Value.conditions_leaf ofKey?_in field (.arr vs)

theorem admits_scopeOf {I : Reading δ} {d : δ} {field : String} {vs : List Value} :
    (scopeOf field vs).Admits (I.Grants d) ↔ I .member field (.arr vs) d := by
  rw [Wire.admits_iff_holds (by simp [conditions_scopeOf]), scopeOf, Wire.Holds]
  exact (Value.holds_leaf (I.Grants d) ofKey?_in field (.arr vs)).trans
    (Reading.grants_iff ofSpelling?_in)

/-- The others are the values of a list that are not among some texts. -/
theorem isIn_others {whole rest : List Value} {ss : List String}
    (h : others whole (ss.map .str) = .ok rest) (v : Value) :
    v.isIn rest = true ↔ v.isIn whole = true ∧ ¬ ∃ s ∈ ss, v = .str s := by
  unfold others at h
  split at h
  · obtain rfl := Except.ok.inj h
    have hsame : ∀ {w : Value}, v.eqv w = true →
        (w.isIn (ss.map .str) = true ↔ ∃ s ∈ ss, v = .str s) := by
      intro w hw
      rw [Value.isIn_texts]
      constructor
      · rintro ⟨s, hs, rfl⟩
        exact ⟨s, hs, Value.eqv_str.mp hw⟩
      · rintro ⟨s, hs, rfl⟩
        exact ⟨s, hs, Value.str_eqv.mp hw⟩
    rw [Value.isIn_iff, Value.isIn_iff]
    constructor
    · rintro ⟨w, hw, hvw⟩
      obtain ⟨hwhole, hout⟩ := List.mem_filter.mp hw
      refine ⟨⟨w, hwhole, hvw⟩, ?_⟩
      intro hs
      simp [(hsame hvw).mpr hs] at hout
    · rintro ⟨⟨w, hwhole, hvw⟩, hs⟩
      have hout : ¬ w.isIn (ss.map .str) = true := by
        intro hin
        exact hs ((hsame hvw).mp hin)
      exact ⟨w, List.mem_filter.mpr ⟨hwhole, by simpa using hout⟩, hvw⟩
  · cases h

/-- The resources that the filter of an accessibility names: the authorized ones, or the others among
the resources of the index, as the backend lists them. -/
def Selects (a : Accessibility) (authorized : List Value) (listed : Except Failure (List Value))
    (rest : List Value) : Prop :=
  match a with
  | all => False
  | accessible => rest = authorized
  | unaccessible => ∃ whole, listed = .ok whole ∧ others whole authorized = .ok rest

/-- Whether a resource is in the scope of an accessibility: it is authorized, or it is among the
resources of the index, as the backend lists them, and not authorized. -/
def InScope (a : Accessibility) (authorized : List String) (listed : Except Failure (List Value))
    (v : Value) : Prop :=
  match a with
  | all => True
  | accessible => ∃ s ∈ authorized, v = .str s
  | unaccessible => ∃ whole, listed = .ok whole ∧ v.isIn whole = true ∧ ¬ ∃ s ∈ authorized, v = .str s

/-- When texts are authorized, the resources that are named are those in scope. -/
theorem isIn_iff_inScope {a : Accessibility} {ss : List String} {rest : List Value}
    {listed : Except Failure (List Value)} (h : a.Selects (ss.map .str) listed rest) (v : Value) :
    v.isIn rest = true ↔ a.InScope ss listed v := by
  cases a with
  | all => exact h.elim
  | accessible =>
    obtain rfl := h
    exact Value.isIn_texts
  | unaccessible =>
    obtain ⟨whole, rfl, hrest⟩ := h
    rw [isIn_others hrest]
    simp [InScope]

/-- **A filter that is scoped to some resources always compiles to a query**, and the query matches
what the filter admits with a resource among them. -/
theorem matches_of_compile_scope {lex : Lexicon} {filter : Wire} {field : String} {vs : List Value}
    {f : Option Fragment} (h : lex.compile (filter.scope (scopeOf field vs)) = .ok f) :
    ∃ g, f = some g ∧ ∀ {δ : Type u} (I : Reading δ) (d : δ),
      g.Matches I d ↔ filter.Admits (I.Grants d) ∧ I .member field (.arr vs) d := by
  have hne : (filter.scope (scopeOf field vs)).conditions ≠ [] := by
    simp [Wire.conditions_scope, conditions_scopeOf]
  cases f with
  | none => exact absurd ((Lexicon.compile_eq_none h).mp rfl) hne
  | some g =>
    refine ⟨g, rfl, fun I d => (Lexicon.matches?_compile h I d).trans ?_⟩
    rw [Wire.scope_admits, admits_scopeOf]

end Accessibility

end ScopedSearch
