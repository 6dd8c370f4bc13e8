import ScopedSearch.Proofs.Filter.Meaning
import ScopedSearch.Proofs.Outcome

/-!
# Reading keeps the meaning

What a filter can be when it is read (`parseFilter_cases`, `parse_cases`), and that reading keeps the
conditions of a filter (`conditions_of_parse`) and whether it holds (`holds_of_parse`).
-/

namespace ScopedSearch

/-! ### Values -/

namespace Value

theorem parseFilter_cases {depth : Int} {v : Value} {e : Option Expr}
    (h : v.parseFilter depth = .ok e) :
    ((v = .null ∨ v = .obj []) ∧ e = none) ∨
    (∃ key c items es, v = .obj [(key, .arr items)] ∧ Connective.ofKey? key = some c ∧
      depth < depthLimit ∧ parseFilters (depth + 1) items = .ok es ∧ e = some (.group c es)) ∨
    (∃ key field value, v = .obj [(key, .obj [(field, value)])] ∧ Connective.ofKey? key = none ∧
      e = some (.leaf ⟨key, field, value⟩)) := by
  unfold parseFilter at h
  split at h
  · exact .inl ⟨.inl rfl, by simpa using h.symm⟩
  · exact .inl ⟨.inr rfl, by simpa using h.symm⟩
  · rename_i key operand
    split at h
    · rename_i c hc
      split at h
      · cases h
      rename_i hd
      split at h
      · rename_i items
        obtain ⟨es, hes, rfl⟩ := map_ok_iff.mp h
        exact .inr (.inl ⟨key, c, items, es, rfl, hc, by omega, hes, rfl⟩)
      · cases h
    · rename_i hc
      unfold toCondition at h
      split at h
      · rename_i field value
        exact .inr (.inr ⟨key, field, value, rfl, hc, by simpa using h.symm⟩)
      · cases h
  · cases h

theorem parseFilters_cons {depth : Int} {v : Value} {vs : List Value} {es : List Expr}
    (h : parseFilters depth (v :: vs) = .ok es) :
    ∃ e rest, v.parseFilter depth = .ok e ∧ parseFilters depth vs = .ok rest ∧
      es = consPresent e rest := by
  rw [parseFilters] at h
  obtain ⟨e, he, h⟩ := bind_ok_iff.mp h
  obtain ⟨rest, hrest, h⟩ := bind_ok_iff.mp h
  exact ⟨e, rest, he, hrest, (pure_ok_iff.mp h).symm⟩

mutual

theorem conditions_of_parseFilter {depth : Int} {v : Value} {e : Option Expr}
    (h : v.parseFilter depth = .ok e) : Expr.conditions? e = v.conditions := by
  rcases parseFilter_cases h with ⟨rfl | rfl, rfl⟩ | ⟨key, c, items, es, rfl, hc, -, hes, rfl⟩ |
    ⟨key, field, value, rfl, hc, rfl⟩
  · simp [Expr.conditions?, conditions]
  · simp [Expr.conditions?, conditions]
  · rw [conditions_group hc, ← conditions_of_parseFilters hes]
    rfl
  · rw [conditions_leaf hc]
    rfl
termination_by sizeOf v

theorem conditions_of_parseFilters {depth : Int} {vs : List Value} {es : List Expr}
    (h : parseFilters depth vs = .ok es) : Expr.conditionsAll es = conditionsAll vs := by
  cases vs with
  | nil => cases h; rfl
  | cons v vs =>
    obtain ⟨e, rest, he, hrest, rfl⟩ := parseFilters_cons h
    rw [Expr.conditionsAll_consPresent, conditions_of_parseFilter he,
      conditions_of_parseFilters hrest, conditionsAll]
termination_by sizeOf vs

end

mutual

theorem holds_of_parseFilter (sat : Condition → Prop) {depth : Int} {v : Value} {e : Option Expr}
    (h : v.parseFilter depth = .ok e) : Expr.Holds? sat e ↔ v.Holds sat := by
  rcases parseFilter_cases h with ⟨rfl | rfl, rfl⟩ | ⟨key, c, items, es, rfl, hc, -, hes, rfl⟩ |
    ⟨key, field, value, rfl, hc, rfl⟩
  · simp [Expr.Holds?, Holds]
  · simp [Expr.Holds?, Holds]
  · rw [holds_group sat hc, ← verdicts_of_parseFilters sat hes]
    rfl
  · rw [holds_leaf sat hc]
    rfl
termination_by sizeOf v

theorem verdicts_of_parseFilters (sat : Condition → Prop) {depth : Int} {vs : List Value}
    {es : List Expr} (h : parseFilters depth vs = .ok es) :
    Expr.verdicts sat es = verdicts sat vs := by
  cases vs with
  | nil => cases h; rfl
  | cons v vs =>
    obtain ⟨e, rest, he, hrest, rfl⟩ := parseFilters_cons h
    rw [Expr.verdicts_consPresent, conditions_of_parseFilter he,
      propext (holds_of_parseFilter sat he), verdicts_of_parseFilters sat hrest, verdicts]
termination_by sizeOf vs

end

end Value

/-! ### Filters as they are handed in -/

namespace Wire

theorem parse_cases {depth : Int} {w : Wire} {e : Option Expr} (h : w.parse depth = .ok e) :
    (∃ v, w = .json v ∧ v.parseFilter depth = .ok e) ∨ (∃ t, w = .built t ∧ e = some t) ∨
    (∃ key c parts es, w = .branch key parts ∧ Connective.ofKey? key = some c ∧
      depth < depthLimit ∧ parseAll (depth + 1) parts = .ok es ∧ e = some (.group c es)) := by
  cases w with
  | json v => exact .inl ⟨v, rfl, by simpa [parse] using h⟩
  | built t => exact .inr (.inl ⟨t, rfl, by simpa [parse] using h.symm⟩)
  | branch key parts =>
    rw [parse] at h
    split at h
    · rename_i c hc
      split at h
      · cases h
      · rename_i hd
        obtain ⟨es, hes, rfl⟩ := map_ok_iff.mp h
        exact .inr (.inr ⟨key, c, parts, es, rfl, hc, by omega, hes, rfl⟩)
    · cases h

theorem parseAll_cons {depth : Int} {w : Wire} {ws : List Wire} {es : List Expr}
    (h : parseAll depth (w :: ws) = .ok es) :
    ∃ e rest, w.parse depth = .ok e ∧ parseAll depth ws = .ok rest ∧ es = consPresent e rest := by
  rw [parseAll] at h
  obtain ⟨e, he, h⟩ := bind_ok_iff.mp h
  obtain ⟨rest, hrest, h⟩ := bind_ok_iff.mp h
  exact ⟨e, rest, he, hrest, (pure_ok_iff.mp h).symm⟩

mutual

/-- **Reading keeps the conditions.** -/
theorem conditions_of_parse {depth : Int} {w : Wire} {e : Option Expr}
    (h : w.parse depth = .ok e) : Expr.conditions? e = w.conditions := by
  rcases parse_cases h with ⟨v, rfl, hv⟩ | ⟨t, rfl, rfl⟩ | ⟨key, c, parts, es, rfl, hc, -, hes, rfl⟩
  · rw [Value.conditions_of_parseFilter hv, conditions]
  · rw [Expr.conditions?, conditions]
  · rw [conditions_branch hc, ← conditions_of_parseAll hes]
    rfl
termination_by sizeOf w

theorem conditions_of_parseAll {depth : Int} {ws : List Wire} {es : List Expr}
    (h : parseAll depth ws = .ok es) : Expr.conditionsAll es = conditionsAll ws := by
  cases ws with
  | nil => cases h; rfl
  | cons w ws =>
    obtain ⟨e, rest, he, hrest, rfl⟩ := parseAll_cons h
    rw [Expr.conditionsAll_consPresent, conditions_of_parse he, conditions_of_parseAll hrest,
      conditionsAll]
termination_by sizeOf ws

end

mutual

/-- **Reading keeps whether a filter holds.** -/
theorem holds_of_parse (sat : Condition → Prop) {depth : Int} {w : Wire} {e : Option Expr}
    (h : w.parse depth = .ok e) : Expr.Holds? sat e ↔ w.Holds sat := by
  rcases parse_cases h with ⟨v, rfl, hv⟩ | ⟨t, rfl, rfl⟩ | ⟨key, c, parts, es, rfl, hc, -, hes, rfl⟩
  · rw [Value.holds_of_parseFilter sat hv, Holds]
  · rw [Expr.Holds?, Holds]
  · rw [holds_branch sat hc, ← verdicts_of_parseAll sat hes]
    rfl
termination_by sizeOf w

theorem verdicts_of_parseAll (sat : Condition → Prop) {depth : Int} {ws : List Wire}
    {es : List Expr} (h : parseAll depth ws = .ok es) :
    Expr.verdicts sat es = verdicts sat ws := by
  cases ws with
  | nil => cases h; rfl
  | cons w ws =>
    obtain ⟨e, rest, he, hrest, rfl⟩ := parseAll_cons h
    rw [Expr.verdicts_consPresent, conditions_of_parse he, propext (holds_of_parse sat he),
      verdicts_of_parseAll sat hrest, verdicts]
termination_by sizeOf ws

end

theorem admits_of_parse (sat : Condition → Prop) {depth : Int} {w : Wire} {e : Option Expr}
    (h : w.parse depth = .ok e) : Expr.Admits? sat e ↔ w.Admits sat := by
  rw [Expr.Admits?, Admits, conditions_of_parse h, holds_of_parse sat h]

end Wire

end ScopedSearch
