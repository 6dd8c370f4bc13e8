import ScopedSearch.Proofs.Filter.Reading

/-!
# How deep filters go

How many groups of a filter lie inside each other (`nesting`), and what the limit on that number
refuses.  A filter that is read at one depth is read at every other depth to the same tree, or it is too
deep there (`parse_at`); a tree that is built already has no groups that count.
-/

namespace ScopedSearch

/-- So many groups inside each other fit at a depth. -/
def Fits (depth : Int) (groups : ℕ) : Prop := groups = 0 ∨ depth + groups ≤ depthLimit

instance (depth : Int) (groups : ℕ) : Decidable (Fits depth groups) :=
  inferInstanceAs (Decidable (_ ∨ _))

@[simp] theorem fits_zero (depth : Int) : Fits depth 0 := .inl rfl

theorem fits_max {depth : Int} {m n : ℕ} : Fits depth (max m n) ↔ Fits depth m ∧ Fits depth n := by
  unfold Fits
  omega

theorem fits_group {depth : Int} {n : ℕ} :
    Fits depth (1 + n) ↔ depth < depthLimit ∧ Fits (depth + 1) n := by
  unfold Fits
  omega

/-- Inside one group there is room for fewer groups than may be inside each other. -/
theorem fits_one {n : ℕ} : Fits 1 n ↔ ¬ depthLimit ≤ n := by
  unfold Fits depthLimit
  omega

theorem Fits.of_le {depth other : Int} {n : ℕ} (h : Fits depth n) (hle : other ≤ depth) :
    Fits other n := by
  unfold Fits at *
  omega

/-- A result that is kept where the groups fit. -/
def fitted {α : Type} (depth : Int) (groups : ℕ) (a : α) : Except Failure α :=
  if Fits depth groups then .ok a else .error .filterTooDeep

section Fitted

variable {α β : Type} {depth : Int} {m n : ℕ} {a b : α}

@[simp] theorem fitted_zero : fitted depth 0 a = .ok a := if_pos (fits_zero depth)

theorem fitted_ok_iff : fitted depth n a = .ok b ↔ Fits depth n ∧ a = b := by
  unfold fitted
  split <;> simp [*]

theorem fitted_group (g : α → β) :
    (if depthLimit ≤ depth then .error .filterTooDeep else (fitted (depth + 1) n a).map g) =
      fitted depth (1 + n) (g a) := by
  by_cases hd : depthLimit ≤ depth
  · have hfits : ¬ Fits depth (1 + n) := fun h => by
      have := (fits_group.mp h).1
      omega
    rw [if_pos hd, fitted, if_neg hfits]
  · have hlt : depth < depthLimit := by omega
    by_cases hn : Fits (depth + 1) n <;> simp [fitted, fits_group, hd, hlt, hn, Except.map]

theorem fitted_cons {e : Option Expr} {es : List Expr} :
    (do
      let e ← fitted depth m e
      let es ← fitted depth n es
      return consPresent e es) = fitted depth (max m n) (consPresent e es) := by
  by_cases hm : Fits depth m <;> by_cases hn : Fits depth n <;>
    simp [fitted, fits_max, hm, hn, bind, Except.bind, pure, Except.pure]

end Fitted

/-! ### Values -/

namespace Value

mutual

/-- How many groups of the filter that a value writes lie inside each other. -/
def nesting : Value → ℕ
  | .obj [(key, operand)] =>
    match Connective.ofKey? key with
    | some _ =>
      match operand with
      | .arr items => 1 + nestingAll items
      | _ => 1
    | none => 0
  | _ => 0

def nestingAll : List Value → ℕ
  | [] => 0
  | v :: vs => max v.nesting (nestingAll vs)

end

variable {key : String}

theorem nesting_group {c : Connective} (hc : Connective.ofKey? key = some c) (items : List Value) :
    (obj [(key, .arr items)]).nesting = 1 + nestingAll items := by
  simp only [nesting, hc]

theorem nesting_leaf (hc : Connective.ofKey? key = none) (field : String) (value : Value) :
    (obj [(key, .obj [(field, value)])]).nesting = 0 := by
  simp only [nesting, hc]

mutual

theorem parseFilter_at {depth : Int} {v : Value} {e : Option Expr} (h : v.parseFilter depth = .ok e)
    (other : Int) : v.parseFilter other = fitted other v.nesting e := by
  rcases parseFilter_cases h with ⟨rfl | rfl, rfl⟩ | ⟨key, c, items, es, rfl, hc, -, hes, rfl⟩ |
    ⟨key, field, value, rfl, hc, rfl⟩
  · simp [parseFilter, nesting]
  · simp [parseFilter, nesting]
  · simp only [parseFilter, hc]
    rw [parseFilters_at hes (other + 1), nesting_group hc]
    exact fitted_group _
  · simp [parseFilter, hc, toCondition, nesting_leaf hc]
termination_by sizeOf v

theorem parseFilters_at {depth : Int} {vs : List Value} {es : List Expr}
    (h : parseFilters depth vs = .ok es) (other : Int) :
    parseFilters other vs = fitted other (nestingAll vs) es := by
  cases vs with
  | nil =>
    cases h
    simp [parseFilters, nestingAll]
  | cons v vs =>
    obtain ⟨e, rest, he, hrest, rfl⟩ := parseFilters_cons h
    rw [parseFilters, parseFilter_at he other, parseFilters_at hrest other, nestingAll]
    exact fitted_cons
termination_by sizeOf vs

end

end Value

/-! ### Filters as they are handed in -/

namespace Wire

mutual

/-- How many groups of a filter lie inside each other; those of a tree do not count. -/
def nesting : Wire → ℕ
  | .json v => v.nesting
  | .built _ => 0
  | .branch _ parts => 1 + nestingAll parts

def nestingAll : List Wire → ℕ
  | [] => 0
  | w :: ws => max w.nesting (nestingAll ws)

end

mutual

/-- **A filter that is read at one depth is read to the same at another, where its groups fit.** -/
theorem parse_at {depth : Int} {w : Wire} {e : Option Expr} (h : w.parse depth = .ok e) (other : Int) :
    w.parse other = fitted other w.nesting e := by
  rcases parse_cases h with ⟨v, rfl, hv⟩ | ⟨t, rfl, rfl⟩ | ⟨key, c, parts, es, rfl, hc, -, hes, rfl⟩
  · rw [parse, Value.parseFilter_at hv other, nesting]
  · simp [parse, nesting]
  · simp only [parse, hc]
    rw [parseAll_at hes (other + 1), nesting]
    exact fitted_group _
termination_by sizeOf w

theorem parseAll_at {depth : Int} {ws : List Wire} {es : List Expr}
    (h : parseAll depth ws = .ok es) (other : Int) :
    parseAll other ws = fitted other (nestingAll ws) es := by
  cases ws with
  | nil =>
    cases h
    simp [parseAll, nestingAll]
  | cons w ws =>
    obtain ⟨e, rest, he, hrest, rfl⟩ := parseAll_cons h
    rw [parseAll, parse_at he other, parseAll_at hrest other, nestingAll]
    exact fitted_cons
termination_by sizeOf ws

end

theorem fits_of_parse {depth : Int} {w : Wire} {e : Option Expr} (h : w.parse depth = .ok e) :
    Fits depth w.nesting :=
  (fitted_ok_iff.mp ((parse_at h depth).symm.trans h)).1

theorem parse_of_le {depth other : Int} {w : Wire} {e : Option Expr} (h : w.parse depth = .ok e)
    (hle : other ≤ depth) : w.parse other = .ok e := by
  rw [parse_at h other]
  exact fitted_ok_iff.mpr ⟨(fits_of_parse h).of_le hle, rfl⟩

end Wire

end ScopedSearch
