import ScopedSearch.Access.Accessibility
import ScopedSearch.Filter.Parse
import ScopedSearch.Proofs.Filter.Words
import ScopedSearch.Proofs.Query.Meaning

/-!
# What a filter means

The conditions of a filter, from left to right, and whether the filter holds, given which of its
conditions do: a group reads its parts by its connective, and a part without a condition does not
count.  Both are told of filters as they are handed in (`Wire`) and as trees (`Expr`), and reading
keeps them (`conditions_of_parse`, `holds_of_parse`).  A filter *admits* what it does not rule out:
one without a condition admits everything.
-/

namespace ScopedSearch

/-! ### Trees -/

namespace Expr

mutual

def conditions : Expr → List Condition
  | .leaf l => [l]
  | .group _ parts => conditionsAll parts

def conditionsAll : List Expr → List Condition
  | [] => []
  | e :: es => e.conditions ++ conditionsAll es

end

mutual

/-- Whether a tree holds, given which conditions do. -/
def Holds (sat : Condition → Prop) : Expr → Prop
  | .leaf l => sat l
  | .group c parts => c.Joins (verdicts sat parts)

/-- What the parts say that have a condition. -/
def verdicts (sat : Condition → Prop) : List Expr → List Prop
  | [] => []
  | e :: es => if e.conditions.isEmpty then verdicts sat es else e.Holds sat :: verdicts sat es

end

def conditions? : Option Expr → List Condition
  | none => []
  | some e => e.conditions

/-- Whether a tree that may be absent holds; what is absent asks for nothing. -/
def Holds? (sat : Condition → Prop) : Option Expr → Prop
  | none => True
  | some e => e.Holds sat

/-- A tree that may be absent admits everything unless it has a condition; then it admits what makes it
hold. -/
def Admits? (sat : Condition → Prop) (e : Option Expr) : Prop := conditions? e ≠ [] → Holds? sat e

@[simp] theorem conditionsAll_consPresent (e : Option Expr) (es : List Expr) :
    conditionsAll (consPresent e es) = conditions? e ++ conditionsAll es := by
  cases e <;> rfl

@[simp] theorem verdicts_consPresent (sat : Condition → Prop) (e : Option Expr) (es : List Expr) :
    verdicts sat (consPresent e es) =
      if (conditions? e).isEmpty then verdicts sat es else Holds? sat e :: verdicts sat es := by
  cases e <;> rfl

/-- What holds of the conditions, and of a group when it holds of its parts, holds of all trees. -/
@[elab_as_elim]
theorem recParts {motive : Expr → Prop} (leaf : ∀ l, motive (.leaf l))
    (group : ∀ c parts, (∀ e ∈ parts, motive e) → motive (.group c parts)) : ∀ e, motive e
  | .leaf l => leaf l
  | .group c parts => group c parts fun e _ => recParts leaf group e

theorem conditionsAll_eq_flatMap (es : List Expr) : conditionsAll es = es.flatMap conditions := by
  induction es with
  | nil => rfl
  | cons e es ih => rw [conditionsAll, ih, List.flatMap_cons]

theorem mem_conditionsAll {l : Condition} {es : List Expr} :
    l ∈ conditionsAll es ↔ ∃ e ∈ es, l ∈ e.conditions := by
  rw [conditionsAll_eq_flatMap, List.mem_flatMap]

theorem holds_all {sat : Condition → Prop} {parts : List Expr} :
    (group .all parts).Holds sat ↔ ∀ e ∈ parts, e.conditions ≠ [] → e.Holds sat := by
  rw [Holds]
  induction parts with
  | nil => simp [verdicts]
  | cons e es ih =>
    rw [verdicts, List.forall_mem_cons, ← ih]
    split
    · simp [List.isEmpty_iff.mp ‹_›]
    · rw [Connective.joins_all_cons]
      simp_all

theorem holds_any {sat : Condition → Prop} {parts : List Expr} :
    (group .any parts).Holds sat ↔ ∃ e ∈ parts, e.conditions ≠ [] ∧ e.Holds sat := by
  rw [Holds]
  induction parts with
  | nil => simp [verdicts, Connective.Joins]
  | cons e es ih =>
    rw [verdicts, List.exists_mem_cons_iff, ← ih]
    split
    · simp [List.isEmpty_iff.mp ‹_›]
    · rw [Connective.joins_any_cons]
      simp_all

end Expr

/-! ### Values -/

namespace Value

def ownCondition (key : String) : Value → List Condition
  | .obj [(field, value)] => [⟨key, field, value⟩]
  | _ => []

mutual

def conditions : Value → List Condition
  | .obj [(key, operand)] =>
    match Connective.spelled? key with
    | some _ =>
      match operand with
      | .arr items => conditionsAll items
      | _ => []
    | none => ownCondition key operand
  | _ => []

def conditionsAll : List Value → List Condition
  | [] => []
  | v :: vs => v.conditions ++ conditionsAll vs

end

mutual

/-- Whether the filter that a value writes holds, given which conditions do. -/
def Holds (sat : Condition → Prop) : Value → Prop
  | .obj [(key, operand)] =>
    match Connective.spelled? key with
    | some c =>
      match operand with
      | .arr items => c.Joins (verdicts sat items)
      | _ => True
    | none => ∀ l ∈ ownCondition key operand, sat l
  | _ => True

/-- What the parts say that have a condition. -/
def verdicts (sat : Condition → Prop) : List Value → List Prop
  | [] => []
  | v :: vs => if v.conditions.isEmpty then verdicts sat vs else v.Holds sat :: verdicts sat vs

end

variable {key : String}

theorem conditions_group {c : Connective} (hc : Connective.ofKey? key = some c) (items : List Value) :
    (obj [(key, .arr items)]).conditions = conditionsAll items := by
  simp only [conditions, Connective.spelled?_eq_ofKey?, hc]

theorem holds_group (sat : Condition → Prop) {c : Connective} (hc : Connective.ofKey? key = some c)
    (items : List Value) : (obj [(key, .arr items)]).Holds sat ↔ c.Joins (verdicts sat items) := by
  simp only [Holds, Connective.spelled?_eq_ofKey?, hc]

theorem conditions_leaf (hc : Connective.ofKey? key = none) (field : String) (value : Value) :
    (obj [(key, .obj [(field, value)])]).conditions = [⟨key, field, value⟩] := by
  simp only [conditions, Connective.spelled?_eq_ofKey?, hc, ownCondition]

theorem holds_leaf (sat : Condition → Prop) (hc : Connective.ofKey? key = none) (field : String)
    (value : Value) : (obj [(key, .obj [(field, value)])]).Holds sat ↔ sat ⟨key, field, value⟩ := by
  simp only [Holds, Connective.spelled?_eq_ofKey?, hc, ownCondition, List.forall_mem_singleton]

end Value

/-! ### Filters as they are handed in -/

namespace Wire

mutual

def conditions : Wire → List Condition
  | .json v => v.conditions
  | .built e => e.conditions
  | .branch key parts => if (Connective.spelled? key).isSome then conditionsAll parts else []

def conditionsAll : List Wire → List Condition
  | [] => []
  | w :: ws => w.conditions ++ conditionsAll ws

end

mutual

/-- Whether a filter holds, given which conditions do. -/
def Holds (sat : Condition → Prop) : Wire → Prop
  | .json v => v.Holds sat
  | .built e => e.Holds sat
  | .branch key parts =>
    match Connective.spelled? key with
    | some c => c.Joins (verdicts sat parts)
    | none => True

/-- What the parts say that have a condition. -/
def verdicts (sat : Condition → Prop) : List Wire → List Prop
  | [] => []
  | w :: ws => if w.conditions.isEmpty then verdicts sat ws else w.Holds sat :: verdicts sat ws

end

theorem conditions_branch {key : String} {c : Connective} (hc : Connective.ofKey? key = some c)
    (parts : List Wire) : (branch key parts).conditions = conditionsAll parts := by
  simp [conditions, Connective.spelled?_eq_ofKey?, hc]

theorem holds_branch (sat : Condition → Prop) {key : String} {c : Connective}
    (hc : Connective.ofKey? key = some c) (parts : List Wire) :
    (branch key parts).Holds sat ↔ c.Joins (verdicts sat parts) := by
  simp only [Holds, Connective.spelled?_eq_ofKey?, hc]

/-- A filter admits everything unless it has a condition; then it admits what makes it hold. -/
def Admits (sat : Condition → Prop) (w : Wire) : Prop := w.conditions ≠ [] → w.Holds sat

end Wire

end ScopedSearch
