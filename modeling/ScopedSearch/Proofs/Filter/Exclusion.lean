import Mathlib.Data.List.Lattice
import Mathlib.Data.List.Nodup
import Mathlib.Data.List.Pairwise
import ScopedSearch.Proofs.Filter.Meaning

/-!
# Leaving out the conditions on a field

A tree without its conditions on a field (`Expr.without`), and what it loses.  A conjunction gets wider
when a part goes from it, but a disjunction of which something is left gets narrower.  So where none of
the conditions holds that go from such a disjunction (`Expr.lost`), a tree that holds still holds
(`holds_without`); and when the other conditions are on different fields there is no better condition
than that there are none (`exists_separates`).
-/

namespace ScopedSearch

namespace Expr

variable {sat sat' : Condition → Prop}

/-! ### Trees that hold -/

theorem exists_of_holds {e : Expr} (hne : e.conditions ≠ []) (hold : e.Holds sat) :
    ∃ l ∈ e.conditions, sat l := by
  induction e using recParts with
  | leaf l => exact ⟨l, by simp [conditions], hold⟩
  | group c parts ih =>
    have hpart : ∃ e ∈ parts, e.conditions ≠ [] ∧ e.Holds sat := by
      cases c with
      | any => exact holds_any.mp hold
      | all =>
        obtain ⟨l, hl⟩ := List.exists_mem_of_ne_nil _ hne
        obtain ⟨e, he, hl⟩ := mem_conditionsAll.mp hl
        exact ⟨e, he, List.ne_nil_of_mem hl, holds_all.mp hold e he (List.ne_nil_of_mem hl)⟩
    obtain ⟨e, he, hene, hold⟩ := hpart
    obtain ⟨l, hl, hsat⟩ := ih e he hene hold
    exact ⟨l, mem_conditionsAll.mpr ⟨e, he, hl⟩, hsat⟩

theorem holds_of_forall {e : Expr} (hne : e.conditions ≠ []) (h : ∀ l ∈ e.conditions, sat l) :
    e.Holds sat := by
  induction e using recParts with
  | leaf l => exact h l (by simp [conditions])
  | group c parts ih =>
    have hparts : ∀ e ∈ parts, e.conditions ≠ [] → e.Holds sat := fun e he hene =>
      ih e he hene fun l hl => h l (mem_conditionsAll.mpr ⟨e, he, hl⟩)
    cases c with
    | all => exact holds_all.mpr hparts
    | any =>
      obtain ⟨l, hl⟩ := List.exists_mem_of_ne_nil _ hne
      obtain ⟨e, he, hl⟩ := mem_conditionsAll.mp hl
      exact holds_any.mpr ⟨e, he, List.ne_nil_of_mem hl, hparts e he (List.ne_nil_of_mem hl)⟩

theorem holds_mono {e : Expr} (h : ∀ l ∈ e.conditions, sat l → sat' l) (hold : e.Holds sat) :
    e.Holds sat' := by
  induction e using recParts with
  | leaf l => exact h l (by simp [conditions]) hold
  | group c parts ih =>
    have hpart : ∀ e ∈ parts, e.Holds sat → e.Holds sat' := fun e he =>
      ih e he fun l hl => h l (mem_conditionsAll.mpr ⟨e, he, hl⟩)
    cases c with
    | all => exact holds_all.mpr fun e he hne => hpart e he (holds_all.mp hold e he hne)
    | any =>
      obtain ⟨e, he, hne, hold⟩ := holds_any.mp hold
      exact holds_any.mpr ⟨e, he, hne, hpart e he hold⟩

/-! ### Trees without the conditions on a field -/

variable {field : String}

mutual

def without (field : String) : Expr → Option Expr
  | .leaf l => if l.field = field then none else some (.leaf l)
  | .group c parts => some (.group c (withoutAll field parts))

def withoutAll (field : String) : List Expr → List Expr
  | [] => []
  | e :: es => consPresent (e.without field) (withoutAll field es)

end

theorem mem_withoutAll {x : Expr} {es : List Expr} :
    x ∈ withoutAll field es ↔ ∃ e ∈ es, e.without field = some x := by
  induction es with
  | nil => simp [withoutAll]
  | cons e es ih =>
    rw [withoutAll, List.exists_mem_cons_iff, ← ih]
    cases e.without field <;> simp [consPresent, eq_comm]

mutual

theorem conditions_without : ∀ e : Expr,
    conditions? (e.without field) = e.conditions.filter (·.field ≠ field)
  | .leaf l => by
    by_cases hl : l.field = field <;> simp [without, conditions?, conditions, hl]
  | .group c parts => by
    rw [without, conditions?, conditions, conditions, conditionsAll_without]

theorem conditionsAll_without : ∀ es : List Expr,
    conditionsAll (withoutAll field es) = (conditionsAll es).filter (·.field ≠ field)
  | [] => rfl
  | e :: es => by
    rw [withoutAll, conditionsAll_consPresent, conditions_without e, conditionsAll_without es,
      conditionsAll, List.filter_append]

end

theorem mem_conditions_without {e x : Expr} (hx : e.without field = some x) {l : Condition} :
    l ∈ x.conditions ↔ l ∈ e.conditions ∧ l.field ≠ field := by
  have hfilter : x.conditions = e.conditions.filter (·.field ≠ field) := by
    rw [← conditions_without, hx, conditions?]
  simp [hfilter]

theorem conditions_ne_nil_of_without {e x : Expr} (hx : e.without field = some x)
    (hne : x.conditions ≠ []) : e.conditions ≠ [] := by
  obtain ⟨l, hl⟩ := List.exists_mem_of_ne_nil _ hne
  exact List.ne_nil_of_mem ((mem_conditions_without hx).mp hl).1

/-! ### What is lost -/

mutual

/-- The conditions on a field that go from a disjunction of which something is left. -/
def lost (field : String) : Expr → List Condition
  | .leaf _ => []
  | .group c parts =>
    if (conditionsAll (withoutAll field parts)).isEmpty then [] else lostParts field c parts

/-- What each part of a group loses; a part that goes from a disjunction is lost with all of its
conditions. -/
def lostParts (field : String) (c : Connective) : List Expr → List Condition
  | [] => []
  | e :: es =>
    (if c = .any ∧ (conditions? (e.without field)).isEmpty then e.conditions else e.lost field) ++
      lostParts field c es

end

theorem mem_lostParts {l : Condition} {c : Connective} {es : List Expr} :
    l ∈ lostParts field c es ↔ ∃ e ∈ es,
      l ∈ if c = .any ∧ (conditions? (e.without field)).isEmpty then e.conditions else e.lost field := by
  induction es with
  | nil => simp [lostParts]
  | cons e es ih => rw [lostParts, List.mem_append, ih, List.exists_mem_cons_iff]

/-- **A tree of which something is left still holds**, where no condition does that goes from a
disjunction of which something is left. -/
theorem holds_without {e x : Expr} (hx : e.without field = some x) (hne : x.conditions ≠ [])
    (hlost : ∀ l ∈ e.lost field, ¬ sat l) (hold : e.Holds sat) : x.Holds sat := by
  induction e using recParts generalizing x with
  | leaf l =>
    rw [without] at hx
    split at hx
    · cases hx
    · obtain rfl := Option.some.inj hx
      exact hold
  | group c parts ih =>
    rw [without] at hx
    obtain rfl := Option.some.inj hx
    rw [lost, if_neg (by simpa [conditions] using hne)] at hlost
    cases c with
    | all =>
      refine holds_all.mpr fun y hy hyne => ?_
      obtain ⟨e, he, hey⟩ := mem_withoutAll.mp hy
      refine ih e he hey hyne (fun l hl => hlost l (mem_lostParts.mpr ⟨e, he, by simpa using hl⟩)) ?_
      exact holds_all.mp hold e he (conditions_ne_nil_of_without hey hyne)
    | any =>
      obtain ⟨e, he, hene, hold⟩ := holds_any.mp hold
      by_cases hgone : (conditions? (e.without field)).isEmpty = true
      · obtain ⟨l, hl, hsat⟩ := exists_of_holds hene hold
        exact absurd hsat (hlost l (mem_lostParts.mpr ⟨e, he, by simpa [hgone] using hl⟩))
      · cases hey : e.without field with
        | none => simp [hey, conditions?] at hgone
        | some y =>
          have hyne : y.conditions ≠ [] := by simpa [hey, conditions?] using hgone
          refine holds_any.mpr ⟨y, mem_withoutAll.mpr ⟨e, he, hey⟩, hyne, ?_⟩
          refine ih e he hey hyne (fun l hl => ?_) hold
          exact hlost l (mem_lostParts.mpr ⟨e, he, by simpa [hgone] using hl⟩)

/-! ### What is lost may hold -/

def otherFields (field : String) (e : Expr) : List String :=
  (e.conditions.map (·.field)).filter (· ≠ field)

theorem mem_otherFields {e : Expr} {l : Condition} (hl : l ∈ e.conditions) (hf : l.field ≠ field) :
    l.field ∈ e.otherFields field := by
  simp only [otherFields, List.mem_filter, List.mem_map, decide_eq_true_eq]
  exact ⟨⟨l, hl, rfl⟩, hf⟩

theorem otherFields_group (c : Connective) (parts : List Expr) :
    (group c parts).otherFields field = parts.flatMap (otherFields field) := by
  rw [otherFields, conditions, conditionsAll_eq_flatMap, List.map_flatMap, List.filter_flatMap]
  rfl

/-- When the other fields of a group are all different, each of them is in one part only. -/
theorem eq_of_mem_otherFields {c : Connective} {parts : List Expr}
    (h : ((group c parts).otherFields field).Nodup) {p q : Expr} (hp : p ∈ parts) (hq : q ∈ parts)
    {f : String} (hfp : f ∈ p.otherFields field) (hfq : f ∈ q.otherFields field) : p = q := by
  rw [otherFields_group] at h
  by_contra hpq
  have : Std.Symm (Function.onFun List.Disjoint (otherFields field)) := ⟨fun _ _ h => h.symm⟩
  exact (List.nodup_flatMap.mp h).2.forall hp hq hpq hfp hfq

def OnOrIn (field : String) (P : String → Prop) (l : Condition) : Prop := l.field = field ∨ P l.field

section OnOrIn

variable {P Q : String → Prop} {e x : Expr}

/-- What holds of the other fields does not matter unless the tree has a condition on them. -/
theorem holds_onOrIn_mono (h : ∀ f ∈ e.otherFields field, P f → Q f)
    (hold : e.Holds (OnOrIn field P)) : e.Holds (OnOrIn field Q) := by
  refine holds_mono (fun l hl hsat => ?_) hold
  by_cases hf : l.field = field
  · exact .inl hf
  · exact .inr (h _ (mem_otherFields hl hf) (hsat.resolve_left hf))

theorem mem_otherFields_of_without (hx : e.without field = some x) {f : String}
    (hf : f ∈ x.otherFields field) : f ∈ e.otherFields field := by
  simp only [otherFields, List.mem_filter, List.mem_map, decide_eq_true_eq] at hf
  obtain ⟨⟨l, hl, rfl⟩, hne⟩ := hf
  exact mem_otherFields ((mem_conditions_without hx).mp hl).1 hne

theorem exists_otherField_of_holds (hx : e.without field = some x) (hne : x.conditions ≠ [])
    (hold : x.Holds (OnOrIn field P)) : ∃ f ∈ e.otherFields field, P f := by
  obtain ⟨l, hl, hsat⟩ := exists_of_holds hne hold
  obtain ⟨hl, hf⟩ := (mem_conditions_without hx).mp hl
  exact ⟨l.field, mem_otherFields hl hf, hsat.resolve_left hf⟩

theorem exists_without_of_lost (h : e.lost field ≠ []) :
    ∃ x, e.without field = some x ∧ x.conditions ≠ [] := by
  cases e with
  | leaf l => simp [lost] at h
  | group c parts =>
    refine ⟨_, by rw [without], fun hnil => h ?_⟩
    rw [conditions] at hnil
    rw [lost, if_pos (by simp [hnil])]

/-- With the field and some other fields a tree holds, and what is left of it without the conditions on
the field does not. -/
def Separates (field : String) (P : String → Prop) (e : Expr) : Prop :=
  e.Holds (OnOrIn field P) ∧
    ∀ x, e.without field = some x → x.conditions ≠ [] → ¬ x.Holds (OnOrIn field P)

/-- A disjunction holds by a part that is on the field alone, and nothing is left of that part. -/
theorem separates_any_of_gone {parts : List Expr} {p : Expr} (hp : p ∈ parts) (hne : p.conditions ≠ [])
    (hgone : (conditions? (p.without field)).isEmpty = true) :
    Separates field (fun _ => False) (group .any parts) := by
  refine ⟨holds_any.mpr ⟨p, hp, hne, holds_of_forall hne fun l hl => .inl ?_⟩, ?_⟩
  · rw [conditions_without, List.isEmpty_iff, List.filter_eq_nil_iff] at hgone
    simpa using hgone l hl
  · intro x hx hxne hold
    obtain ⟨-, -, h⟩ := exists_otherField_of_holds hx hxne hold
    exact h

section Group

variable {parts : List Expr} {p : Expr}

/-- What separates a part separates the disjunction, when the other parts do not hold. -/
theorem Separates.any (h : p.Separates field P) (hp : p ∈ parts) (hne : p.conditions ≠ [])
    (hfields : ((group .any parts).otherFields field).Nodup) :
    Separates field (fun f => P f ∧ f ∈ p.otherFields field) (group .any parts) := by
  obtain ⟨hold, hfail⟩ := h
  refine ⟨holds_any.mpr ⟨p, hp, hne, holds_onOrIn_mono (fun f hf hPf => ⟨hPf, hf⟩) hold⟩, ?_⟩
  intro x hx _ hx'
  rw [without] at hx
  obtain rfl := Option.some.inj hx
  obtain ⟨z, hz, hzne, hz'⟩ := holds_any.mp hx'
  obtain ⟨q, hq, hqz⟩ := mem_withoutAll.mp hz
  obtain ⟨f, hfq, -, hfp⟩ := exists_otherField_of_holds hqz hzne hz'
  obtain rfl := eq_of_mem_otherFields hfields hp hq hfp hfq
  exact hfail z hqz hzne (holds_onOrIn_mono (fun f _ h => h.1) hz')

/-- What separates a part separates the conjunction, when the other parts hold. -/
theorem Separates.all (h : p.Separates field P) (hp : p ∈ parts) {y : Expr}
    (hy : p.without field = some y) (hyne : y.conditions ≠ [])
    (hfields : ((group .all parts).otherFields field).Nodup) :
    Separates field (fun f => f ∈ p.otherFields field → P f) (group .all parts) := by
  obtain ⟨hold, hfail⟩ := h
  refine ⟨holds_all.mpr fun q hq hqne => ?_, ?_⟩
  · by_cases hpq : p = q
    · subst hpq
      exact holds_onOrIn_mono (fun f _ hPf _ => hPf) hold
    · refine holds_of_forall hqne fun l hl => ?_
      by_cases hf : l.field = field
      · exact .inl hf
      · exact .inr fun hfp =>
          absurd (eq_of_mem_otherFields hfields hp hq hfp (mem_otherFields hl hf)) hpq
  · intro x hx _ hx'
    rw [without] at hx
    obtain rfl := Option.some.inj hx
    have hy' := holds_all.mp hx' y (mem_withoutAll.mpr ⟨p, hp, hy⟩) hyne
    exact hfail y hy hyne (holds_onOrIn_mono (fun f hf h => h (mem_otherFields_of_without hy hf)) hy')

end Group

/-- **A tree that loses a condition may get narrower**: if its other conditions are on different fields,
it holds for some of them, together with the field itself, when it does not hold any longer without the
conditions on the field. -/
theorem exists_separates (hlost : e.lost field ≠ []) (hfields : (e.otherFields field).Nodup) :
    ∃ P, e.Separates field P := by
  induction e using recParts with
  | leaf l => simp [lost] at hlost
  | group c parts ih =>
    have hleft : ¬ (conditionsAll (withoutAll field parts)).isEmpty = true := fun h =>
      hlost (by rw [lost, if_pos h])
    rw [lost, if_neg hleft] at hlost
    obtain ⟨l, hgroup⟩ := List.exists_mem_of_ne_nil _ hlost
    obtain ⟨p, hp, hl⟩ := mem_lostParts.mp hgroup
    split at hl
    · -- the part goes altogether
      rename_i hgone
      obtain ⟨rfl, hgone⟩ := hgone
      exact ⟨_, separates_any_of_gone hp (List.ne_nil_of_mem hl) hgone⟩
    · -- the part loses a condition itself
      have hnodup : (p.otherFields field).Nodup := by
        rw [otherFields_group] at hfields
        exact (List.nodup_flatMap.mp hfields).1 p hp
      obtain ⟨P, hP⟩ := ih p hp (List.ne_nil_of_mem hl) hnodup
      obtain ⟨y, hy, hyne⟩ := exists_without_of_lost (List.ne_nil_of_mem hl)
      cases c with
      | any => exact ⟨_, hP.any hp (conditions_ne_nil_of_without hy hyne) hfields⟩
      | all => exact ⟨_, hP.all hp hy hyne hfields⟩

end OnOrIn

end Expr

end ScopedSearch
